import Mathlib.Logic.Function.Basic
import PetApp.Lib.Runs

/-!
The tab bar over the navigation stacks: `TabbarController.swift` and every controller
that sets `tabBarController?.tabBar.isHidden`.

The three roots show the bar in `viewWillAppear`. A pushed controller hides it in
`viewDidLoad`, which runs once, or in `viewWillAppear`, which runs each time it comes to
the top, or leaves it as it is. The preview of the avatar hides the bar as well and shows it
again through a notification when it closes. UIKit calls `viewWillAppear` of the
controller below when a swipe back begins, and of the one on top again when the swipe is
given up.

The callback of an account deletion pushes the login screen on the stack of the account tab,
whichever tab is selected by then. A controller that is pushed behind another tab loads at
once or when its tab is shown; the answer of UIKit is part of the event.

* `hides_of_opens` — whatever a root pushes hides the bar.
* `barAtRoots_appears_iff` — what is on top hides the bar when it appears, or finds it hidden.
* `atRoots_step` — away from the selected tab only the account tab has pushed controllers.
* `barAtRoots_step_iff` — a step breaks the bar exactly when it brings to the top a controller
  that has loaded before and hides the bar in `viewDidLoad` alone, when it loads the login
  screen behind the root of another tab, or when it closes the preview over a pushed
  controller.
* `bar_shown_at_roots_iff` — the same over whole runs.
-/

namespace PetApp

open Runs

/-- The tabs of `initTabbar` with their roots. -/
inductive Tab where
  | home
  | list
  | account
deriving DecidableEq

/-- The controllers that are pushed. -/
inductive PushedScreen where
  | favorite
  | petHealthBook
  | newPetHeath
  | petHeathDetail
  | listPet
  | addPet
  | informationPet
  | handBook
  | handBookDetail
  | training
  | trainingDetail
  | detailItem
  | userDetail
  | login
deriving DecidableEq

namespace PushedScreen

/-- `viewDidLoad` hides the bar. -/
def viewDidLoad : PushedScreen → Bool
  | favorite => true
  | petHealthBook => true
  | listPet => true
  | detailItem => true
  | userDetail => true
  | login => true
  | _ => false

/-- `viewWillAppear` hides the bar. -/
def viewWillAppear : PushedScreen → Bool
  | handBook => true
  | training => true
  | addPet => true
  | _ => false

/-- What a pushed controller pushes. -/
def opens : PushedScreen → PushedScreen → Bool
  | favorite, detailItem => true
  | petHealthBook, newPetHeath => true
  | petHealthBook, petHeathDetail => true
  | listPet, addPet => true
  | listPet, informationPet => true
  | handBook, handBookDetail => true
  | training, trainingDetail => true
  | _, _ => false

end PushedScreen

/-- What a root pushes. -/
def Tab.opens : Tab → PushedScreen → Bool
  | home, .favorite => true
  | home, .petHealthBook => true
  | home, .listPet => true
  | home, .handBook => true
  | home, .training => true
  | list, .detailItem => true
  | account, .userDetail => true
  | account, .listPet => true
  | account, .petHealthBook => true
  | account, .favorite => true
  | account, .login => true
  | _, _ => false

/-- A controller on a navigation stack, and whether its `viewDidLoad` has run. -/
structure PushedController where
  screen : PushedScreen
  isLoaded : Bool
deriving DecidableEq

namespace PushedController

/-- The controller after it has appeared. -/
def load (controller : PushedController) : PushedController := { controller with isLoaded := true }

/-- `viewDidLoad`, if it has not run, or `viewWillAppear` hides the bar. -/
def hidesOnAppearing (controller : PushedController) : Bool :=
  (!controller.isLoaded && controller.screen.viewDidLoad) || controller.screen.viewWillAppear

end PushedController

/-- `TabbarController`: what is pushed over the root of each tab, the top first, the tab that
is selected, whether the preview of the avatar is presented, `tabBar.isHidden`, and the number
of calls of `delete` that are not answered yet. -/
structure TabbarController where
  pushed : Tab → List PushedController
  selected : Tab
  preview : Bool
  isHidden : Bool
  deletions : Nat

inductive TabbarEvent where
  /-- A tap on an item of the bar. -/
  | selects (tab : Tab)
  /-- A category tapped on the home screen: `selectedIndex = 1`. -/
  | tapsCategory
  | pushes (screen : PushedScreen)
  /-- The alert of the account screen is confirmed: `delete`. -/
  | confirmsDelete
  /-- The callback of `delete`. It has failed, or it pushes the login screen; behind another
  tab this `loads` at once or when the account tab is shown. -/
  | deleteCallback (failed loads : Bool)
  | pops
  /-- A swipe back that is given up. -/
  | cancelsSwipe
  | didTapViewUserImage
  | didTapCloseView
deriving DecidableEq

namespace TabbarController

/-- The app on its home screen. -/
def launched : TabbarController := ⟨fun _ => [], .home, false, false, 0⟩

/-- The controllers pushed in the selected tab. -/
def stack (s : TabbarController) : List PushedController := s.pushed s.selected

/-- Other controllers in the selected tab. -/
def withStack (stack : List PushedController) (s : TabbarController) : TabbarController :=
  { s with pushed := Function.update s.pushed s.selected stack }

/-- What is then on top of the selected tab appears, and loads before if it has not. -/
def appears (s : TabbarController) : TabbarController :=
  match s.stack with
  | [] => { s with isHidden := false }
  | top :: below =>
      { s.withStack (top.load :: below) with isHidden := s.isHidden || top.hidesOnAppearing }

/-- `pushViewController` in the selected tab: the new controller loads and appears. -/
def push (screen : PushedScreen) (s : TabbarController) : TabbarController :=
  (s.withStack (⟨screen, false⟩ :: s.stack)).appears

/-- `pushViewController` of the login screen in the account tab, behind another one. -/
def pushBehind (loads : Bool) (s : TabbarController) : TabbarController :=
  { s with
    pushed := Function.update s.pushed .account (⟨.login, loads⟩ :: s.pushed .account)
    isHidden := s.isHidden || (loads && PushedScreen.login.viewDidLoad) }

/-- The controller on top may push the other one. -/
def mayPush (s : TabbarController) (screen : PushedScreen) : Bool :=
  match s.stack with
  | [] => s.selected.opens screen
  | top :: _ => top.screen.opens screen

/-- One event. `none` when the bar or the screen it comes from is not there, or no call of
`delete` is to be answered. -/
def step (s : TabbarController) : TabbarEvent → Option TabbarController
  | .selects tab =>
      if s.isHidden || s.preview then none
      -- a tap on the selected item pops to the root
      else if tab = s.selected then
        some (if s.stack = [] then s else (s.withStack []).appears)
      else some { s with selected := tab }.appears
  | .tapsCategory =>
      if s.selected = .home ∧ s.stack = [] then some { s with selected := .list }.appears else none
  | .pushes screen => if !s.preview && s.mayPush screen then some (s.push screen) else none
  | .confirmsDelete =>
      if s.selected = .account ∧ s.stack = [] ∧ s.preview = false then
        some { s with deletions := s.deletions + 1 }
      else none
  | .deleteCallback failed loads =>
      match s.deletions with
      | 0 => none
      | deletions + 1 =>
          let answered := { s with deletions := deletions }
          some (if failed then answered
            else if s.selected = .account then answered.push .login
            else answered.pushBehind loads)
  | .pops =>
      match s.stack with
      | [] => none
      | _ :: below => if s.preview then none else some (s.withStack below).appears
  | .cancelsSwipe =>
      match s.stack with
      | [] => none
      | top :: below =>
          let uncovered := (s.withStack below).appears
          if s.preview then none else some (uncovered.withStack (top :: uncovered.stack)).appears
  | .didTapViewUserImage =>
      if s.selected = .account ∧ s.stack = [] ∧ s.preview = false then
        some { s with preview := true, isHidden := true }
      else none
  | .didTapCloseView =>
      -- the account screen observes the notification
      if s.preview then some { s with preview := false, isHidden := false } else none

/-! ### What is asked of a run -/

/-- What is asked of a state: the bar shows exactly when a root is on top. -/
def BarAtRoots (s : TabbarController) : Prop :=
  s.isHidden = false ↔ s.stack = [] ∧ s.preview = false

/-- What comes to the top of a stack hides the bar again. -/
def HidesAgain (stack : List PushedController) : Prop :=
  ∀ top ∈ stack.head?, top.hidesOnAppearing = true

@[simp] theorem hidesAgain_nil : HidesAgain [] := by
  rintro top ⟨⟩

@[simp] theorem hidesAgain_cons {top : PushedController} {below : List PushedController} :
    HidesAgain (top :: below) ↔ top.hidesOnAppearing = true := by
  simp [HidesAgain]

/-- The condition on a step: a tab is selected, and a swipe back to a root given up, only
where the controller that comes to the top hides the bar again; the login screen does not load
behind the root of another tab; and the preview closes over the root. -/
def KeepsBar (s : TabbarController) : TabbarEvent → Prop
  | .selects tab => (s.isHidden || s.preview) = false → tab ≠ s.selected → HidesAgain (s.pushed tab)
  | .deleteCallback failed loads =>
      0 < s.deletions → failed = false → s.selected ≠ .account → loads = true → s.stack ≠ []
  | .cancelsSwipe => s.preview = false → ∀ top, s.stack = [top] → top.hidesOnAppearing = true
  | .didTapCloseView => s.preview = true → s.stack = []
  | _ => True

/-! ### The parts of a step -/

section Parts

variable {s : TabbarController}

@[simp] theorem stack_withStack (s : TabbarController) (stack : List PushedController) :
    (s.withStack stack).stack = stack := Function.update_self _ _ _

@[simp] theorem isHidden_withStack (s : TabbarController) (stack : List PushedController) :
    (s.withStack stack).isHidden = s.isHidden := rfl

theorem appears_of_root (root : s.stack = []) : s.appears = { s with isHidden := false } := by
  simp [appears, root]

theorem appears_of_pushed {top : PushedController} {below : List PushedController}
    (onTop : s.stack = top :: below) :
    s.appears =
      { s.withStack (top.load :: below) with isHidden := s.isHidden || top.hidesOnAppearing } := by
  simp [appears, onTop]

@[simp] theorem selected_appears (s : TabbarController) : s.appears.selected = s.selected := by
  unfold appears
  split <;> rfl

@[simp] theorem preview_appears (s : TabbarController) : s.appears.preview = s.preview := by
  unfold appears
  split <;> rfl

/-- Only the top of the selected tab is touched. -/
theorem pushed_appears_of_ne {tab : Tab} (other : tab ≠ s.selected) :
    s.appears.pushed tab = s.pushed tab := by
  unfold appears
  split
  · rfl
  · exact Function.update_of_ne other _ _

/-- **What appears.** The bar is right exactly when it was hidden, or what comes to the top
hides it. -/
theorem barAtRoots_appears_iff (s : TabbarController) (closed : s.stack = [] → s.preview = false) :
    BarAtRoots s.appears ↔ s.stack = [] ∨ s.isHidden = true ∨ HidesAgain s.stack := by
  cases onTop : s.stack with
  | nil =>
      rw [appears_of_root onTop]
      exact iff_of_true (iff_of_true rfl ⟨onTop, closed onTop⟩) (.inl rfl)
  | cons top below =>
      rw [appears_of_pushed onTop]
      have covered : ¬ ((s.withStack (top.load :: below)).stack = [] ∧ s.preview = false) := by
        rw [stack_withStack]
        rintro ⟨⟨⟩, -⟩
      have hidden : BarAtRoots { s.withStack (top.load :: below) with
          isHidden := s.isHidden || top.hidesOnAppearing } ↔
          ¬ (s.isHidden || top.hidesOnAppearing) = false :=
        ⟨fun bar shown => covered (bar.mp shown), fun hidden => iff_of_false hidden covered⟩
      rw [hidden, Bool.not_eq_false, Bool.or_eq_true]
      simp

end Parts

/-- Whatever a root pushes hides the bar. -/
theorem hides_of_opens {tab : Tab} {screen : PushedScreen} (opens : tab.opens screen = true) :
    (screen.viewDidLoad || screen.viewWillAppear) = true := by
  cases tab <;> cases screen <;> first | rfl | cases opens

/-! ### What every event keeps -/

/-- Behind the selected tab only the account tab has pushed controllers, and the preview is
that of the account tab. -/
structure AtRoots (s : TabbarController) : Prop where
  others : ∀ tab, tab ≠ s.selected → tab ≠ .account → s.pushed tab = []
  account : s.preview = true → s.selected = .account

section Facts

variable {s t : TabbarController}

theorem atRoots_withStack (inv : AtRoots s) (stack : List PushedController) :
    AtRoots (s.withStack stack) := by
  refine ⟨fun tab other notAccount => ?_, inv.account⟩
  exact (Function.update_of_ne other _ _).trans (inv.others tab other notAccount)

theorem atRoots_appears (inv : AtRoots s) : AtRoots s.appears := by
  constructor
  · intro tab other notAccount
    rw [selected_appears] at other
    rw [pushed_appears_of_ne other]
    exact inv.others tab other notAccount
  · rw [preview_appears, selected_appears]
    exact inv.account

theorem atRoots_push (inv : AtRoots s) (screen : PushedScreen) : AtRoots (s.push screen) :=
  atRoots_appears (atRoots_withStack inv _)

theorem atRoots_pushBehind (inv : AtRoots s) (loads : Bool) : AtRoots (s.pushBehind loads) := by
  refine ⟨fun tab other notAccount => ?_, inv.account⟩
  exact (Function.update_of_ne notAccount _ _).trans (inv.others tab other notAccount)

/-- The stacks do not depend on the calls of `delete` to be answered. -/
theorem atRoots_deletions (inv : AtRoots s) (deletions : Nat) :
    AtRoots { s with deletions := deletions } := ⟨inv.others, inv.account⟩

/-- Another tab is selected over a root. -/
theorem atRoots_select (inv : AtRoots s) (root : s.stack = []) (closed : s.preview = false)
    (tab : Tab) : AtRoots { s with selected := tab } := by
  refine ⟨fun other _ notAccount => ?_, fun preview => ?_⟩
  · by_cases current : other = s.selected
    · rw [current]
      exact root
    · exact inv.others other current notAccount
  · exact absurd closed (by rw [show s.preview = true from preview]; simp)

/-- The home screen is not under the preview. -/
theorem closed_of_home (inv : AtRoots s) (atHome : s.selected = .home) : s.preview = false := by
  by_contra presented
  have atAccount := inv.account (Bool.not_eq_false _ ▸ presented)
  rw [atHome] at atAccount
  cases atAccount

/-- Over a pushed controller the bar is hidden. -/
theorem isHidden_of_pushed (bar : BarAtRoots s) (pushed : s.stack ≠ []) : s.isHidden = true := by
  by_contra shown
  exact pushed (bar.mp (Bool.not_eq_true _ ▸ shown)).1

/-- What one event can do to a bar that shows at the roots, and when it meets the
condition. -/
inductive Moves (s : TabbarController) (e : TabbarEvent) : TabbarController → Prop where
  | stays (deletions : Nat) (keeps : KeepsBar s e) : Moves s e { s with deletions := deletions }
  | selects (tab : Tab) (root : s.stack = []) (closed : s.preview = false)
      (keeps : KeepsBar s e ↔ HidesAgain (s.pushed tab)) :
      Moves s e { s with selected := tab }.appears
  | pushes (screen : PushedScreen) (deletions : Nat)
      (may : s.mayPush screen = true ∨ screen = .login) (keeps : KeepsBar s e) :
      Moves s e ({ s with deletions := deletions }.push screen)
  | pushesBehind (loads : Bool) (deletions : Nat) (elsewhere : s.selected ≠ .account)
      (keeps : KeepsBar s e ↔ (loads = true → s.stack ≠ [])) :
      Moves s e ({ s with deletions := deletions }.pushBehind loads)
  | pops (top : PushedController) (below : List PushedController) (onTop : s.stack = top :: below)
      (closed : s.preview = false) (keeps : KeepsBar s e) : Moves s e (s.withStack below).appears
  | cancelsSwipe (top : PushedController) (below : List PushedController)
      (onTop : s.stack = top :: below) (closed : s.preview = false)
      (keeps : KeepsBar s e ↔ (below = [] → top.hidesOnAppearing = true)) :
      Moves s e ((s.withStack below).appears.withStack
        (top :: (s.withStack below).appears.stack)).appears
  | presents (atAccount : s.selected = .account) (keeps : KeepsBar s e) :
      Moves s e { s with preview := true, isHidden := true }
  | closes (presented : s.preview = true) (keeps : KeepsBar s e ↔ s.stack = []) :
      Moves s e { s with preview := false, isHidden := false }

/-- The answer of `delete`, in the tab that is then selected. -/
theorem moves_deleteCallback {failed loads : Bool}
    (stepped : step s (.deleteCallback failed loads) = some t) :
    Moves s (.deleteCallback failed loads) t := by
  simp only [step] at stepped
  split at stepped
  · cases stepped
  · rename_i deletions outstanding
    cases stepped
    cases failed with
    | true => exact .stays deletions fun _ succeeded => by cases succeeded
    | false =>
        by_cases atAccount : s.selected = .account
        · rw [if_neg Bool.false_ne_true, if_pos atAccount]
          exact .pushes .login deletions (.inr rfl) fun _ _ elsewhere => absurd atAccount elsewhere
        · rw [if_neg Bool.false_ne_true, if_neg atAccount]
          have asked : 0 < s.deletions := by
            rw [outstanding]
            exact Nat.succ_pos deletions
          exact .pushesBehind loads deletions atAccount
            ⟨fun keeps => keeps asked rfl atAccount, fun covered _ _ _ => covered⟩

theorem moves_of_step (inv : AtRoots s) (bar : BarAtRoots s) {e : TabbarEvent}
    (stepped : step s e = some t) : Moves s e t := by
  cases e with
  | deleteCallback failed loads => exact moves_deleteCallback stepped
  | selects tab =>
      simp only [step] at stepped
      split at stepped
      · cases stepped
      · rename_i refused
        have shown := Bool.not_eq_true _ ▸ refused
        obtain ⟨visible, closed⟩ := Bool.or_eq_false_iff.mp shown
        have root := (bar.mp visible).1
        split at stepped
        · rename_i same
          cases stepped
          exact .stays s.deletions fun _ other => absurd same other
        · rename_i other
          cases stepped
          exact .selects tab root closed ⟨fun keeps => keeps shown other, fun hides _ _ => hides⟩
  | tapsCategory =>
      simp only [step] at stepped
      split at stepped
      · rename_i atHome
        cases stepped
        have empty : s.pushed .list = [] := by
          apply inv.others
          · rw [atHome.1]
            decide
          · decide
        refine .selects .list atHome.2 (closed_of_home inv atHome.1) (iff_of_true trivial ?_)
        rw [empty]
        exact hidesAgain_nil
      · cases stepped
  | pushes screen =>
      simp only [step] at stepped
      split at stepped
      · rename_i may
        cases stepped
        exact .pushes screen s.deletions (.inl (Bool.and_eq_true_iff.mp may).2) trivial
      · cases stepped
  | confirmsDelete =>
      simp only [step] at stepped
      split at stepped
      · cases stepped
        exact .stays (s.deletions + 1) trivial
      · cases stepped
  | pops =>
      simp only [step] at stepped
      split at stepped
      · cases stepped
      · rename_i top below onTop
        split at stepped
        · cases stepped
        · rename_i closed
          cases stepped
          exact .pops top below onTop (Bool.not_eq_true _ ▸ closed) trivial
  | cancelsSwipe =>
      simp only [step] at stepped
      split at stepped
      · cases stepped
      · rename_i top below onTop
        split at stepped
        · cases stepped
        · rename_i presented
          have closed := Bool.not_eq_true _ ▸ presented
          cases stepped
          refine .cancelsSwipe top below onTop closed ⟨?_, ?_⟩
          · rintro keeps rfl
            exact keeps closed top onTop
          · intro hides _ top' onTop'
            cases onTop.symm.trans onTop'
            exact hides rfl
  | didTapViewUserImage =>
      simp only [step] at stepped
      split at stepped
      · rename_i atAccount
        cases stepped
        exact .presents atAccount.1 trivial
      · cases stepped
  | didTapCloseView =>
      simp only [step] at stepped
      split at stepped
      · rename_i presented
        cases stepped
        exact .closes presented ⟨fun keeps => keeps presented, fun root _ => root⟩
      · cases stepped

theorem atRoots_step (inv : AtRoots s) (bar : BarAtRoots s) {e : TabbarEvent}
    (stepped : step s e = some t) : AtRoots t := by
  cases moves_of_step inv bar stepped with
  | stays deletions keeps => exact atRoots_deletions inv deletions
  | selects tab root closed keeps => exact atRoots_appears (atRoots_select inv root closed tab)
  | pushes screen deletions may keeps => exact atRoots_push (atRoots_deletions inv deletions) screen
  | pushesBehind loads deletions elsewhere keeps =>
      exact atRoots_pushBehind (atRoots_deletions inv deletions) loads
  | pops top below onTop closed keeps => exact atRoots_appears (atRoots_withStack inv below)
  | cancelsSwipe top below onTop closed keeps =>
      exact atRoots_appears (atRoots_withStack (atRoots_appears (atRoots_withStack inv below)) _)
  | presents atAccount keeps => exact ⟨inv.others, fun _ => atAccount⟩
  | closes presented keeps => exact ⟨inv.others, fun presented => by cases presented⟩

/-- A pushed controller is under a hidden bar. -/
theorem barAtRoots_push (bar : BarAtRoots s) {screen : PushedScreen}
    (may : s.mayPush screen = true ∨ screen = .login) : BarAtRoots (s.push screen) := by
  have onTop := stack_withStack s (⟨screen, false⟩ :: s.stack)
  rw [push, barAtRoots_appears_iff _ (by simp), onTop, isHidden_withStack, hidesAgain_cons]
  cases below : s.stack with
  | cons top rest => exact .inr (.inl (isHidden_of_pushed bar (by simp [below])))
  | nil =>
      have hides : (screen.viewDidLoad || screen.viewWillAppear) = true := by
        rcases may with may | rfl
        · simp only [mayPush, below] at may
          exact hides_of_opens may
        · rfl
      exact .inr (.inr (by simpa [PushedController.hidesOnAppearing] using hides))

/-- Behind another tab the login screen may load unless the root of that tab shows. -/
theorem barAtRoots_pushBehind_iff (inv : AtRoots s) (bar : BarAtRoots s)
    (elsewhere : s.selected ≠ .account) (loads : Bool) :
    BarAtRoots (s.pushBehind loads) ↔ (loads = true → s.stack ≠ []) := by
  have same : (s.pushBehind loads).stack = s.stack := Function.update_of_ne elsewhere _ _
  have closed : s.preview = false := by
    by_contra presented
    exact elsewhere (inv.account (Bool.not_eq_false _ ▸ presented))
  have shown : s.isHidden = false ↔ s.stack = [] :=
    bar.trans (and_iff_left closed)
  have after : (s.pushBehind loads).isHidden = false ↔ s.stack = [] ∧ loads = false := by
    simp [pushBehind, PushedScreen.viewDidLoad, shown]
  rw [BarAtRoots, same, after, and_iff_left (show (s.pushBehind loads).preview = false from closed)]
  cases loads <;> simp

/-- A swipe that is given up uncovers a root, or something under which the bar is hidden. -/
theorem barAtRoots_cancelsSwipe_iff (bar : BarAtRoots s) {top : PushedController}
    {below : List PushedController} (onTop : s.stack = top :: below) :
    BarAtRoots ((s.withStack below).appears.withStack
        (top :: (s.withStack below).appears.stack)).appears ↔
      (below = [] → top.hidesOnAppearing = true) := by
  have hidden := isHidden_of_pushed bar (by simp [onTop])
  rw [barAtRoots_appears_iff _ (by simp), stack_withStack, isHidden_withStack, hidesAgain_cons]
  cases below with
  | nil =>
      rw [appears_of_root (stack_withStack s [])]
      simp
  | cons next below =>
      rw [appears_of_pushed (stack_withStack s (next :: below)), isHidden_withStack, hidden]
      simp

/-- A step keeps the bar at the roots exactly when it meets the condition. -/
theorem barAtRoots_step_iff (inv : AtRoots s) (bar : BarAtRoots s) {e : TabbarEvent}
    (stepped : step s e = some t) : BarAtRoots t ↔ KeepsBar s e := by
  cases moves_of_step inv bar stepped with
  | stays deletions keeps => exact iff_of_true bar keeps
  | selects tab root closed keeps =>
      have shown : s.isHidden = false := bar.mpr ⟨root, closed⟩
      rw [keeps, barAtRoots_appears_iff { s with selected := tab } fun _ => closed]
      change s.pushed tab = [] ∨ s.isHidden = true ∨ HidesAgain (s.pushed tab) ↔ _
      cases s.pushed tab <;> simp [shown]
  | pushes screen deletions may keeps =>
      have pushed : BarAtRoots { s with deletions := deletions } := bar
      exact iff_of_true (barAtRoots_push pushed may) keeps
  | pushesBehind loads deletions elsewhere keeps =>
      rw [keeps]
      exact barAtRoots_pushBehind_iff (atRoots_deletions inv deletions) bar elsewhere loads
  | pops top below onTop closed keeps =>
      have hidden := isHidden_of_pushed bar (by simp [onTop])
      refine iff_of_true ?_ keeps
      rw [barAtRoots_appears_iff (s.withStack below) fun _ => closed]
      exact .inr (.inl hidden)
  | cancelsSwipe top below onTop closed keeps =>
      rw [keeps]
      exact barAtRoots_cancelsSwipe_iff bar onTop
  | presents atAccount keeps =>
      refine iff_of_true (iff_of_false ?_ ?_) keeps
      · exact Bool.true_eq_false.mp
      · rintro ⟨-, ⟨⟩⟩
  | closes presented keeps =>
      rw [keeps]
      constructor
      · intro after
        exact (after.mp rfl).1
      · intro root
        exact iff_of_true rfl ⟨root, rfl⟩

theorem keepsBar_of_refused {e : TabbarEvent} (refused : step s e = none) : KeepsBar s e := by
  cases e with
  | selects tab =>
      intro shown other
      simp [step, shown, other] at refused
  | deleteCallback failed loads =>
      intro asked
      obtain ⟨deletions, outstanding⟩ := Nat.exists_eq_succ_of_ne_zero (Nat.ne_of_gt asked)
      simp [step, outstanding] at refused
  | cancelsSwipe =>
      intro closed top onTop
      simp [step, onTop, closed] at refused
  | didTapCloseView =>
      intro presented
      simp [step, presented] at refused
  | _ => trivial

end Facts

/-- **When the tab bar shows exactly at the roots.** For every run of tab selections, pushes,
pops, swipes, previews, logouts and account deletions from the home screen, whenever the
answers of `delete` come: in every state the bar shows exactly when the home, list or account
screen is on top, exactly when each step meets the condition. No tab is selected, and no swipe
back to a root given up, where the controller that comes to the top has loaded before and hides
the bar in `viewDidLoad` alone; the login screen does not load behind the root of another tab;
and no preview closes over a pushed login screen. -/
theorem bar_shown_at_roots_iff (events : List TabbarEvent) :
    Always step BarAtRoots launched events ↔ Meets step KeepsBar launched events := by
  apply always_iff_meets AtRoots
  · intro s e t inv bar stepped
    exact atRoots_step inv bar stepped
  · intro s e t inv bar stepped
    exact barAtRoots_step_iff inv bar stepped
  · intro s e refused
    exact keepsBar_of_refused refused
  · refine ⟨fun _ _ _ => rfl, fun presented => ?_⟩
    cases presented
  · exact iff_of_true rfl ⟨rfl, rfl⟩

-- a swipe given up on the handbook is harmless, on the list of pets it is not
example : Meets step KeepsBar launched [.pushes .handBook, .cancelsSwipe] ∧
    ¬ Meets step KeepsBar launched [.pushes .listPet, .cancelsSwipe] := by
  refine ⟨⟨trivial, ?_⟩, ?_⟩
  · rintro _ ⟨⟩
    refine ⟨?_, fun _ _ => trivial⟩
    rintro - top ⟨⟩
    rfl
  · rintro ⟨-, later⟩
    have hides := (later _ rfl).1 rfl ⟨.listPet, true⟩ rfl
    cases hides

-- the answer of `delete` comes on the home screen, and the login screen loads behind it
example : ¬ Meets step KeepsBar launched
    [.selects .account, .confirmsDelete, .selects .home, .deleteCallback false true] := by
  rintro ⟨-, atAccount⟩
  obtain ⟨-, asked⟩ := atAccount _ rfl
  obtain ⟨-, atHome⟩ := asked _ rfl
  exact (atHome _ rfl).1 Nat.one_pos rfl (by decide) rfl rfl

end TabbarController

end PetApp
