import PetApp.Lib.ReusePool
import PetApp.Lib.Tickets
import PetApp.Post.Table

/-!
The rows of the two post screens: `PostCell.swift` under `HandBookViewController.swift` and
`TrainingViewController.swift`, with `setImage` of Kingfisher's `ImageView+Kingfisher.swift`.

`PostCell` has no `prepareForReuse`: a cell that is used again keeps its texts and image until
`didSetData` sets them. The training screen has its images and sets them at once. The handbook
screen has links: Kingfisher shows a placeholder, gives the image view a new task identifier and
takes an answer only while the image view still has the identifier of its request.

* `PostCells` — the table of a post screen with its cells and their views.
* `CellRules` — what the views have to keep for the rows to show their posts.
* `shownBy_step`, `shownBy_run` — under these rules every row shows its post in every state.
* `handBook_rules`, `training_rules` — both classes of views follow them.
* `post_rows_show_posts` — so no row of either screen ever shows the text or the image of
  another post.
-/

namespace PetApp

open Runs Reuse Tickets

/-! ### The table and its cells -/

/-- A class of cells over a state `ω` of their views: how a cell is set, and what an event
that arrives later does to the views. -/
structure PostCellKind (α ω ε : Type) where
  didSetData : (cell : Nat) → α → ω → ω
  arrive : ω → ε → Option ω

/-- The table of a post screen, the pool that hands the cells to the rows, and the views of
the cells. -/
structure PostCells (α ω : Type) where
  table : PostTable α
  pool : Pool
  views : ω

inductive PostCellEvent (ε : Type) where
  | table (event : TableEvent)
  /-- A row comes to the screen, with a cell of the reuse queue or a new one. -/
  | cellForRowAt (row : Nat) (reused : Option Nat)
  | didEndDisplaying (row : Nat)
  | view (event : ε)

/-- Every event but the fetch callback of the load ends in `reloadData`. -/
def TableEvent.reloads : TableEvent → Bool
  | .callback => false
  | .delayedBlock | .user _ => true

namespace PostCells

variable {α ω ε : Type}

/-- The screen when its load starts. -/
def start (views : ω) : PostCells α ω := ⟨.start, .empty, views⟩

/-- One event. `cellForRowAt` is asked for rows below the count of the last reload; the first
two rows have cells of other classes. -/
def step (tableStep : PostTable α → TableEvent → Option (PostTable α)) (kind : PostCellKind α ω ε)
    (s : PostCells α ω) : PostCellEvent ε → Option (PostCells α ω)
  | .table event =>
      (tableStep s.table event).map fun table =>
        { s with
          table := table
          pool := if event.reloads then s.pool.reclaim s.table.rows else s.pool }
  | .cellForRowAt row reused =>
      if row < s.table.rows then
        match s.table.screen.cellForRowAt row, s.pool.take row reused with
        | some (.post item), some (cell, pool) =>
            some { s with pool := pool, views := kind.didSetData cell item s.views }
        | _, _ => none
      else none
  | .didEndDisplaying row => (s.pool.leave row).map fun pool => { s with pool := pool }
  | .view event => (kind.arrive s.views event).map fun views => { s with views := views }

/-- What one event can do. -/
theorem step_cases {tableStep : PostTable α → TableEvent → Option (PostTable α)}
    {kind : PostCellKind α ω ε} {s t : PostCells α ω} {event : PostCellEvent ε}
    (stepped : step tableStep kind s event = some t) :
    (∃ e table, event = .table e ∧ tableStep s.table e = some table ∧
      t = ⟨table, if e.reloads then s.pool.reclaim s.table.rows else s.pool, s.views⟩) ∨
    (∃ row reused item cell pool, event = .cellForRowAt row reused ∧ row < s.table.rows ∧
      s.table.screen.cellForRowAt row = some (.post item) ∧
      s.pool.take row reused = some (cell, pool) ∧
      t = ⟨s.table, pool, kind.didSetData cell item s.views⟩) ∨
    (∃ row pool, event = .didEndDisplaying row ∧ s.pool.leave row = some pool ∧
      t = ⟨s.table, pool, s.views⟩) ∨
    (∃ e views, event = .view e ∧ kind.arrive s.views e = some views ∧
      t = ⟨s.table, s.pool, views⟩) := by
  cases event with
  | table e =>
      obtain ⟨table, changed, rfl⟩ := Option.map_eq_some_iff.mp stepped
      exact .inl ⟨e, table, rfl, changed, rfl⟩
  | cellForRowAt row reused =>
      simp only [step] at stepped
      split at stepped
      · rename_i inRange
        split at stepped
        · rename_i item cell pool found taken
          cases stepped
          exact .inr (.inl ⟨row, reused, item, cell, pool, rfl, inRange, found, taken, rfl⟩)
        · cases stepped
      · cases stepped
  | didEndDisplaying row =>
      obtain ⟨pool, left, rfl⟩ := Option.map_eq_some_iff.mp stepped
      exact .inr (.inr (.inl ⟨row, pool, rfl, left, rfl⟩))
  | view e =>
      obtain ⟨views, arrived, rfl⟩ := Option.map_eq_some_iff.mp stepped
      exact .inr (.inr (.inr ⟨e, views, rfl, arrived, rfl⟩))

end PostCells

/-! ### What keeps every row showing its post -/

/-- `shows` is set by `didSetData` on a usable post, and kept by `didSetData` on other cells
and by the events of `ok` that arrive later. -/
structure CellRules {α ω ε : Type} (kind : PostCellKind α ω ε) (usable : α → Prop)
    (ok : ε → Prop) (sound : ω → Prop) (shows : Nat → α → ω → Prop) : Prop where
  sets : ∀ cell item views, sound views → usable item →
    sound (kind.didSetData cell item views) ∧ shows cell item (kind.didSetData cell item views)
  others : ∀ cell item cell' item' views, cell' ≠ cell → usable item →
    shows cell' item' views → shows cell' item' (kind.didSetData cell item views)
  arrives : ∀ e views views', sound views → ok e → kind.arrive views e = some views' →
    sound views' ∧ ∀ cell item, shows cell item views → shows cell item views'

/-- What the load keeps of the table: the posts on the screen are usable, and the fetch
callback, which does not reload, changes neither the row count nor a post on the screen. -/
structure TableRules {α : Type} (tableStep : PostTable α → TableEvent → Option (PostTable α))
    (usable : α → Prop) (inv : PostTable α → Prop) : Prop where
  start : inv .start
  keeps : ∀ table event next, inv table → tableStep table event = some next → inv next
  usable : ∀ table, inv table → ∀ item ∈ table.screen.shown, usable item
  callback : ∀ table next, inv table → tableStep table .callback = some next →
    next.rows = table.rows ∧
      (table.screen.shown = [] ∨ next.screen.shown = table.screen.shown)

namespace PostCells

variable {α ω ε : Type} {tableStep : PostTable α → TableEvent → Option (PostTable α)}
  {kind : PostCellKind α ω ε} {usable : α → Prop} {ok : ε → Prop} {sound : ω → Prop}
  {shows : Nat → α → ω → Prop} {inv : PostTable α → Prop}

/-- Every row on the screen shows the post at its position. -/
def RowsShow (shows : Nat → α → ω → Prop) (s : PostCells α ω) : Prop :=
  ∀ row cell, s.pool.cellAt row = some cell →
    ∃ item, s.table.screen.cellForRowAt row = some (.post item) ∧ shows cell item s.views

/-- The invariant of the rows. -/
structure ShownBy (inv : PostTable α → Prop) (sound : ω → Prop) (shows : Nat → α → ω → Prop)
    (s : PostCells α ω) : Prop where
  table : inv s.table
  views : sound s.views
  pool : s.pool.Sound s.table.rows
  rows : RowsShow shows s

/-- The row of a post is one of the rows after the first two. -/
theorem exists_of_cellForRowAt {screen : PostScreen α} {row : Nat} {item : α}
    (found : screen.cellForRowAt row = some (.post item)) :
    ∃ k, row = k + 2 ∧ screen.shown[k]? = some item := by
  match row, found with
  | 0, found => cases found
  | 1, found => cases found
  | k + 2, found =>
      rw [PostScreen.cellForRowAt_add_two] at found
      obtain ⟨item', here, same⟩ := Option.map_eq_some_iff.mp found
      cases same
      exact ⟨k, rfl, here⟩

theorem shownBy_start (tables : TableRules tableStep usable inv) {views : ω}
    (initial : sound views) : ShownBy inv sound shows (start views : PostCells α ω) where
  table := tables.start
  views := initial
  pool := Pool.sound_empty _
  rows := by
    intro row cell shown
    cases shown

theorem shownBy_step (tables : TableRules tableStep usable inv)
    (cells : CellRules kind usable ok sound shows) {s t : PostCells α ω} {event : PostCellEvent ε}
    (accepted : ∀ e, event = .view e → ok e) (before : ShownBy inv sound shows s)
    (stepped : step tableStep kind s event = some t) : ShownBy inv sound shows t := by
  rcases step_cases stepped with ⟨e, table, rfl, changed, rfl⟩ |
    ⟨row, reused, item, cell, pool, rfl, inRange, found, taken, rfl⟩ | ⟨row, pool, rfl, left, rfl⟩ |
    ⟨e, views, rfl, arrived, rfl⟩
  · have after := tables.keeps _ _ _ before.table changed
    by_cases reloads : e.reloads = true
    · refine ⟨after, before.views, ?_, ?_⟩
      · simp only [reloads, if_true]
        exact Pool.sound_reclaim before.pool _
      · intro row cell shown
        simp [reloads, Pool.reclaim] at shown
    · -- the fetch callback: it sets the list of a screen without rows, or only moves the load on
      have callback : e = .callback := by
        cases e with
        | callback => rfl
        | delayedBlock | user _ => exact absurd rfl reloads
      subst callback
      obtain ⟨sameRows, posts⟩ := tables.callback _ _ before.table changed
      refine ⟨after, before.views, ?_, ?_⟩
      · simp only [TableEvent.reloads, Bool.false_eq_true, if_false]
        rw [sameRows]
        exact before.pool
      · intro row cell shown
        have old : s.pool.cellAt row = some cell := shown
        obtain ⟨item, found, showing⟩ := before.rows row cell old
        obtain ⟨k, rfl, here⟩ := exists_of_cellForRowAt found
        rcases posts with none | same
        · simp [none] at here
        · refine ⟨item, ?_, showing⟩
          rw [PostScreen.cellForRowAt_add_two, same, here]
          rfl
  · obtain ⟨k, rfl, here⟩ := exists_of_cellForRowAt found
    have canUse := tables.usable _ before.table item (List.mem_of_getElem? here)
    obtain ⟨views, showing⟩ := cells.sets cell item s.views before.views canUse
    refine ⟨before.table, views, Pool.sound_take before.pool inRange taken, ?_⟩
    intro row' cell' shown
    rcases Pool.cellAt_take_cases before.pool taken shown with ⟨rfl, rfl⟩ | ⟨-, other, old⟩
    · exact ⟨item, found, showing⟩
    · obtain ⟨item', found', showing'⟩ := before.rows row' cell' old
      exact ⟨item', found', cells.others _ _ _ _ _ other canUse showing'⟩
  · refine ⟨before.table, before.views, Pool.sound_leave before.pool left, ?_⟩
    intro row' cell' still
    exact before.rows row' cell' (Pool.cellAt_leave_cases left still).2
  · obtain ⟨after, kept⟩ := cells.arrives e _ _ before.views (accepted e rfl) arrived
    refine ⟨before.table, after, before.pool, ?_⟩
    intro row cell shown
    obtain ⟨item, found, showing⟩ := before.rows row cell shown
    exact ⟨item, found, kept cell item showing⟩

/-- Under the rules, every row shows its post in every state of every run. -/
theorem shownBy_run (tables : TableRules tableStep usable inv)
    (cells : CellRules kind usable ok sound shows) {views : ω} (initial : sound views)
    {events : List (PostCellEvent ε)} (accepted : ∀ e, .view e ∈ events → ok e) :
    Always (step tableStep kind) (RowsShow shows) (start views) events := by
  have shown : Always (step tableStep kind) (ShownBy inv sound shows) (start views) events := by
    apply always_of_steps
    · intro s event member t before stepped
      refine shownBy_step tables cells ?_ before stepped
      rintro e rfl
      exact accepted e member
    · exact shownBy_start tables initial
  exact shown.imp fun _ h => h.rows

end PostCells

/-! ### The cells of the handbook -/

/-- What `PostCell` sets beside its image: two texts, and whether the image view is hidden. -/
structure PostLabels where
  postTitle : Option String
  postDescription : Option String
  isHidden : Bool
deriving DecidableEq

/-- The views of the handbook cells; `σ` is the type of the URLs. -/
structure HandBookViews (σ : Type) where
  labels : Nat → PostLabels
  postImage : Slots Nat σ (Option UIImage)

/-- Kingfisher answers the request at a position, with an image or with an error. -/
structure ImageArrival where
  position : Nat
  succeeds : Bool

/-- Both texts of the cell are the title. -/
def PostLabels.setTitle (title : String) (labels : PostLabels) : PostLabels :=
  { labels with postTitle := some title, postDescription := some title }

section HandBook

variable {σ : Type} (url : String → Option σ) (picture : σ → UIImage) (noData : Option UIImage)

/-- `PostCell.didSetData` for a `HandBook`. `url` is `URL(string:)`, `noData` the placeholder. -/
def PostCell.didSetHandBook (cell : Nat) (post : HandBook) (views : HandBookViews σ) :
    HandBookViews σ :=
  match post.image with
  | some link =>
      { labels := Function.update views.labels cell ((views.labels cell).setTitle post.title)
        postImage := views.postImage.request cell noData (url link) }
  | none =>
      { views with
        labels := Function.update views.labels cell
          ({ views.labels cell with isHidden := true }.setTitle post.title) }

/-- The cells of the handbook; `picture` is the image behind a URL. -/
def PostCell.handBook : PostCellKind HandBook (HandBookViews σ) ImageArrival where
  didSetData := PostCell.didSetHandBook url noData
  arrive views arrival :=
    (views.postImage.complete arrival.position fun source =>
      if arrival.succeeds then some (some (picture source)) else none).map fun postImage =>
        { views with postImage := postImage }

/-- The image a handbook post is to be shown with. -/
def HandBook.expectedImage (post : HandBook) : Option UIImage :=
  match post.image.bind url with
  | none => noData
  | some source => some (picture source)

/-- The cell has the title of the post in both texts, its image view is visible, and it has the
image of the post or waits for it with the placeholder. A failed request may leave the
placeholder when `fails` holds. -/
def HandBook.ShownIn (fails : Prop) (cell : Nat) (post : HandBook) (views : HandBookViews σ) :
    Prop :=
  views.labels cell = ⟨some post.title, some post.title, false⟩ ∧
    views.postImage.Awaits noData
      (fun image => image = post.expectedImage url picture noData ∨ (fails ∧ image = noData)) cell
      (post.image.bind url)

/-- No image view is hidden, and the requests of Kingfisher are sound. -/
structure HandBookViews.Sound (views : HandBookViews σ) : Prop where
  visible : ∀ cell, (views.labels cell).isHidden = false
  postImage : views.postImage.Sound

/-- The handbook cells follow the rules, whether or not requests may fail. -/
theorem handBook_rules (fails : Prop) :
    CellRules (PostCell.handBook url picture noData) (fun post => post.image.isSome = true)
      (fun arrival => arrival.succeeds = false → fails) HandBookViews.Sound
      (HandBook.ShownIn url picture noData fails) where
  sets := by
    intro cell post views sound hasImage
    obtain ⟨link, image⟩ := Option.isSome_iff_exists.mp hasImage
    have asked : post.image.bind url = url link := by rw [image, Option.bind_some]
    simp only [PostCell.handBook, PostCell.didSetHandBook, image]
    refine ⟨⟨?_, Slots.sound_request sound.postImage _ _ _⟩, ?_, ?_⟩
    · intro cell'
      by_cases same : cell' = cell
      · subst same
        simpa [PostLabels.setTitle] using sound.visible cell'
      · simpa [Function.update_of_ne same] using sound.visible cell'
    · simp [PostLabels.setTitle, sound.visible cell]
    · rw [asked]
      refine Slots.awaits_request_self _ _ fun noSource => .inl ?_
      simp [HandBook.expectedImage, asked, noSource]
  others := by
    intro cell post cell' post' views other hasImage showing
    obtain ⟨link, image⟩ := Option.isSome_iff_exists.mp hasImage
    simp only [PostCell.handBook, PostCell.didSetHandBook, image]
    refine ⟨?_, Slots.awaits_request_of_ne other showing.2⟩
    simpa [Function.update_of_ne other] using showing.1
  arrives := by
    intro arrival views views' sound accepted arrived
    obtain ⟨postImage, completed, rfl⟩ := Option.map_eq_some_iff.mp arrived
    refine ⟨⟨sound.visible, Slots.sound_complete sound.postImage completed⟩, ?_⟩
    rintro cell post ⟨labels, awaits⟩
    refine ⟨labels, Slots.awaits_complete sound.postImage awaits ?_ completed⟩
    intro source asked
    cases succeeded : arrival.succeeds with
    | true => exact .inl (by simp [HandBook.expectedImage, asked])
    | false => exact .inr ⟨accepted succeeded, rfl⟩

end HandBook

/-- The load of the handbook, with an image link in every post. -/
structure PostTable.HandBookLoading (table : PostTable HandBook) : Prop
    extends Loading (· = .fetching) table where
  animals : ∀ post ∈ table.screen.animals, post.image.isSome = true
  filteredPosts : ∀ post ∈ table.screen.filtered, post.image.isSome = true

theorem FireBaseService.image_isSome_of_mem_decode {documents : List Document} {post : HandBook}
    (member : post ∈ decode documents) : post.image.isSome = true := by
  obtain ⟨k, inRange, rfl⟩ := List.mem_iff_getElem.mp member
  simp [decode, handBook]

/-- A tap or a search takes its posts from the loaded list. -/
theorem PostScreen.mem_of_step {α : Type} [Post α] {foundation : Foundation} {s t : PostScreen α}
    {event : PostEvent} (stepped : s.step foundation event = some t) :
    t.animals = s.animals ∧ t.filtered ⊆ s.animals := by
  cases event <;> cases stepped <;> exact ⟨rfl, List.filter_subset_self _⟩

theorem handBook_tableRules (foundation : Foundation) (documents : List Document) :
    TableRules (PostTable.handBookStep foundation documents)
      (fun post => post.image.isSome = true) PostTable.HandBookLoading where
  start := ⟨PostTable.loading_start _, by simp [PostTable.start, PostScreen.loaded],
    by simp [PostTable.start, PostScreen.loaded]⟩
  keeps := by
    intro table event next loading stepped
    have lists : (∀ post ∈ next.screen.animals, post.image.isSome = true) ∧
        ∀ post ∈ next.screen.filtered, post.image.isSome = true := by
      cases event with
      | callback =>
          simp only [PostTable.handBookStep] at stepped
          split at stepped
          · cases stepped
            exact ⟨fun _ => FireBaseService.image_isSome_of_mem_decode, loading.filteredPosts⟩
          · cases stepped
      | delayedBlock =>
          simp only [PostTable.handBookStep] at stepped
          split at stepped
          · cases stepped
            exact ⟨loading.animals, loading.filteredPosts⟩
          · cases stepped
      | user event =>
          obtain ⟨screen, changed, rfl⟩ := Option.map_eq_some_iff.mp stepped
          obtain ⟨animals, filtered⟩ := PostScreen.mem_of_step changed
          refine ⟨?_, fun post member => loading.animals post (filtered member)⟩
          show ∀ post ∈ screen.animals, post.image.isSome = true
          rw [animals]
          exact loading.animals
    exact ⟨PostTable.loading_handBookStep loading.toLoading stepped, lists.1, lists.2⟩
  usable := by
    intro table loading post member
    unfold PostScreen.shown at member
    split at member
    · exact loading.filteredPosts post member
    · exact loading.animals post member
  callback := by
    intro table next loading stepped
    simp only [PostTable.handBookStep] at stepped
    split at stepped
    · rename_i fetching
      cases stepped
      refine ⟨rfl, .inl (List.eq_nil_of_length_eq_zero ?_)⟩
      have shorter := loading.shown_le
      rw [loading.empty fetching, List.length_nil] at shorter
      omega
    · cases stepped

/-! ### The cells of the training screen -/

/-- The views of the training cells. -/
structure TrainingViews where
  labels : Nat → PostLabels
  postImage : Nat → Option UIImage

/-- `PostCell.didSetData` for a `Training`. -/
def PostCell.didSetTraining (cell : Nat) (post : Training) (views : TrainingViews) :
    TrainingViews where
  labels := Function.update views.labels cell ((views.labels cell).setTitle post.title)
  postImage := Function.update views.postImage cell post.image

/-- The cells of the training screen. Nothing arrives later. -/
def PostCell.training : PostCellKind Training TrainingViews Empty where
  didSetData := PostCell.didSetTraining
  arrive _ event := event.elim

/-- The cell has the title of the post in both texts, its image view is visible and has the
image of the post. -/
def Training.ShownIn (cell : Nat) (post : Training) (views : TrainingViews) : Prop :=
  views.labels cell = ⟨some post.title, some post.title, false⟩ ∧
    views.postImage cell = post.image

theorem training_rules :
    CellRules PostCell.training (fun _ => True) (fun _ => True)
      (fun views => ∀ cell, (views.labels cell).isHidden = false) Training.ShownIn where
  sets := by
    intro cell post views visible _
    simp only [PostCell.training, PostCell.didSetTraining, Training.ShownIn]
    refine ⟨?_, ?_, Function.update_self ..⟩
    · intro cell'
      by_cases same : cell' = cell
      · subst same
        simpa [PostLabels.setTitle] using visible cell'
      · simpa [Function.update_of_ne same] using visible cell'
    · simp [PostLabels.setTitle, visible cell]
  others := by
    intro cell post cell' post' views other _ showing
    simpa [PostCell.training, PostCell.didSetTraining, Training.ShownIn,
      Function.update_of_ne other] using showing
  arrives := by
    rintro ⟨⟩

/-- The fetch callback of the training screen only moves its load on. -/
theorem training_tableRules (foundation : Foundation) (image : String → UIImage)
    (documents : List Document) :
    TableRules (PostTable.trainingStep foundation image documents) (fun _ => True)
      (fun _ => True) where
  start := trivial
  keeps := fun _ _ _ _ _ => trivial
  usable := fun _ _ _ _ => trivial
  callback := by
    intro table next _ stepped
    simp only [PostTable.trainingStep] at stepped
    split at stepped
    · cases stepped
      exact ⟨rfl, .inr rfl⟩
    · cases stepped

/-! ### Whole runs -/

namespace PostCells

/-- The handbook screen with its cells. -/
def handBookStep {σ : Type} (foundation : Foundation) (url : String → Option σ)
    (picture : σ → UIImage) (noData : Option UIImage) (documents : List Document) :
    PostCells HandBook (HandBookViews σ) → PostCellEvent ImageArrival →
      Option (PostCells HandBook (HandBookViews σ)) :=
  step (PostTable.handBookStep foundation documents) (PostCell.handBook url picture noData)

/-- The training screen with its cells. -/
def trainingStep (foundation : Foundation) (image : String → UIImage) (documents : List Document) :
    PostCells Training TrainingViews → PostCellEvent Empty →
      Option (PostCells Training TrainingViews) :=
  step (PostTable.trainingStep foundation image documents) PostCell.training

/-- **No row shows another post.** For every list of documents, every order of the load, taps,
searches, rows that come and go with cells new or used again, and answers of Kingfisher in any
order: every row of the handbook has the title of its post in both texts, a visible image view,
and the image of the post or the placeholder, never the image of another post; when no request
failed, a row that waits for none has the image. Every row of the training screen has the title
and the image of its post. `title`, `description` and `nibImage` are what a new cell has. -/
theorem post_rows_show_posts {σ : Type} (foundation : Foundation) (url : String → Option σ)
    (picture : σ → UIImage) (noData : Option UIImage) (image : String → UIImage)
    (documents : List Document) (title description : Option String) (nibImage : Option UIImage) :
    (∀ events, Always (handBookStep foundation url picture noData documents)
      (RowsShow fun cell post views =>
        views.labels cell = ⟨some post.title, some post.title, false⟩ ∧
          (views.postImage.value cell = post.expectedImage url picture noData ∨
            views.postImage.value cell = noData))
      (start ⟨fun _ => ⟨title, description, false⟩, .const nibImage⟩) events) ∧
    (∀ events, (∀ arrival, .view arrival ∈ events → arrival.succeeds = true) →
      Always (handBookStep foundation url picture noData documents)
        (RowsShow fun cell post views => views.postImage.ticket cell = none →
          views.postImage.value cell = post.expectedImage url picture noData)
        (start ⟨fun _ => ⟨title, description, false⟩, .const nibImage⟩) events) ∧
    ∀ events, Always (trainingStep foundation image documents)
      (RowsShow fun cell post views =>
        views.labels cell = ⟨some post.title, some post.title, false⟩ ∧
          views.postImage cell = post.image)
      (start ⟨fun _ => ⟨title, description, false⟩, fun _ => nibImage⟩) events := by
  have tables := handBook_tableRules foundation documents
  have initial : (⟨fun _ => ⟨title, description, false⟩, .const nibImage⟩ :
      HandBookViews σ).Sound := ⟨fun _ => rfl, Slots.sound_const nibImage⟩
  refine ⟨?_, ?_, ?_⟩
  · intro events
    have accepted : ∀ arrival : ImageArrival, .view arrival ∈ events →
        arrival.succeeds = false → True := fun _ _ _ => trivial
    have shown := shownBy_run tables (handBook_rules url picture noData True) initial accepted
    refine shown.imp fun s rows row cell here => ?_
    obtain ⟨post, found, labels, awaits⟩ := rows row cell here
    refine ⟨post, found, labels, ?_⟩
    rcases awaits with ⟨_, _, -, -, -, waiting⟩ | ⟨-, ended | ⟨-, failed⟩⟩
    · exact .inr waiting
    · exact .inl ended
    · exact .inr failed
  · intro events succeed
    have accepted : ∀ arrival, .view arrival ∈ events → arrival.succeeds = false → False := by
      intro arrival member failed
      rw [succeed arrival member] at failed
      cases failed
    have shown := shownBy_run tables (handBook_rules url picture noData False) initial accepted
    refine shown.imp fun s rows row cell here => ?_
    obtain ⟨post, found, -, awaits⟩ := rows row cell here
    refine ⟨post, found, fun settled => ?_⟩
    rcases awaits with ⟨_, _, -, has, -⟩ | ⟨-, ended | ⟨⟨⟩, -⟩⟩
    · rw [settled] at has
      cases has
    · exact ended
  · intro events
    exact shownBy_run (training_tableRules foundation image documents) training_rules
      (fun _ => rfl) fun _ _ => trivial

end PostCells

end PetApp
