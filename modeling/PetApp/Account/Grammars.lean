import PetApp.Lib.Lists
import PetApp.Account.Validators

/-!
The texts the checks of `SignUpViewController.swift` accept.

The checks of the email and of the password are full matches of regular expressions;
`Regex` says what these accept, and here the answers are put in the words of a user:
which characters a password needs, how the labels of a domain stand, which digits make
a phone number.

* `password_rule_iff` — a password of one line needs eight characters, a digit and a
  capital letter.
* `EmailAddress.WellFormed.eq_of_text_eq` — the text of an address can be read in one way
  only.
* `email_grammar_iff` — an email is accepted exactly when it is a local part and a
  domain of at least two labels. Only the last label and a label that stands alone in
  front of it have to be non-empty, because the class of the domain contains the dot.
* `phone_grammar_iff` — a phone number is accepted exactly when it is ten decimal
  digits of any script.
-/

namespace PetApp

/-! ### Passwords -/

/-- The characters `.` does not match. -/
def isLineTerminator (c : Char) : Bool :=
  c ∈ ['\n', '\x0b', '\x0c', '\r', '\u0085', '\u2028', '\u2029']

section Password

variable {value : String}

/-- A text of one line, evaluated. -/
theorem oneLine_of_all (all : value.toList.all (fun c => !isLineTerminator c) = true) :
    ∀ c ∈ value.toList, isLineTerminator c = false := by
  intro c member
  simpa using List.all_eq_true.mp all c member

/-- On one line, `.*[first-last]+.*` asks for a character of the range. -/
theorem matchesRegex_range_iff {first last : Char}
    (oneLine : ∀ c ∈ value.toList, isLineTerminator c = false) :
    matchesRegex (.seq (.star anyCharacter) (.seq (.plus (.one (inRange first last)))
        (.star anyCharacter))) value = true ↔
      ∃ c ∈ value.toList, inRange first last c = true := by
  apply Regex.fullMatch_somewhere
  intro c member
  have ordinary := oneLine c member
  rw [isLineTerminator] at ordinary
  rw [ordinary]
  rfl

/-- `containDigit` answers whether there is no digit. -/
theorem containDigit_eq_false_iff (oneLine : ∀ c ∈ value.toList, isLineTerminator c = false) :
    containDigit value = false ↔ ∃ c ∈ value.toList, inRange '0' '9' c = true := by
  rw [containDigit, Bool.not_eq_false']
  exact matchesRegex_range_iff oneLine

/-- `containUppercase` answers whether there is no capital letter. -/
theorem containUppercase_eq_false_iff (oneLine : ∀ c ∈ value.toList, isLineTerminator c = false) :
    containUppercase value = false ↔ ∃ c ∈ value.toList, inRange 'A' 'Z' c = true := by
  rw [containUppercase, Bool.not_eq_false']
  exact matchesRegex_range_iff oneLine

/-- The three checks after that for the empty text. -/
theorem invalidPassword_eq_none_iff (foundation : Foundation) (value : String) :
    invalidPassword foundation value = none ↔
      value ≠ "" ∧ 8 ≤ foundation.count value ∧ containDigit value = false ∧
        containUppercase value = false := by
  unfold invalidPassword
  by_cases empty : value = ""
  · simp [empty]
  · by_cases short : foundation.count value < 8
    · simp [empty, short]
    · cases containDigit value <;> cases containUppercase value <;>
        simp [empty, short, Nat.le_of_not_lt short]

end Password

/-- **The password rule.** A text of one line is accepted as a password exactly when
it has at least eight characters, a digit and a capital letter; the two regular
expressions decide whether there is such a character. -/
theorem password_rule_iff (foundation : Foundation) (value : String)
    (oneLine : ∀ c ∈ value.toList, isLineTerminator c = false) :
    (invalidPassword foundation value = none ↔
      8 ≤ foundation.count value ∧ (∃ c ∈ value.toList, inRange '0' '9' c = true) ∧
        ∃ c ∈ value.toList, inRange 'A' 'Z' c = true) ∧
      (matchesRegex digitRegEx value = true ↔ ∃ c ∈ value.toList, inRange '0' '9' c = true) ∧
      (matchesRegex uppercaseRegEx value = true ↔
        ∃ c ∈ value.toList, inRange 'A' 'Z' c = true) := by
  refine ⟨?_, matchesRegex_range_iff oneLine, matchesRegex_range_iff oneLine⟩
  rw [invalidPassword_eq_none_iff, containDigit_eq_false_iff oneLine,
    containUppercase_eq_false_iff oneLine]
  constructor
  · rintro ⟨-, rule⟩
    exact rule
  · intro rule
    refine ⟨?_, rule⟩
    rintro rfl
    obtain ⟨-, ⟨c, member, -⟩, -⟩ := rule
    cases member

/-- A password of eight characters. -/
theorem password_rule_eight :
    (∀ c ∈ "Passw0rd".toList, isLineTerminator c = false) ∧
      invalidPassword .ascii "Passw0rd" = none := by
  have oneLine : ∀ c ∈ "Passw0rd".toList, isLineTerminator c = false :=
    oneLine_of_all rfl
  refine ⟨oneLine, (password_rule_iff .ascii "Passw0rd" oneLine).1.mpr ⟨Nat.le_refl 8, ?_, ?_⟩⟩
  · exact ⟨'0', by decide, rfl⟩
  · exact ⟨'P', by decide, rfl⟩

/-! ### Emails -/

/-- A character of the local part, `[A-Z0-9a-z._%+-]`. -/
def isLocalCharacter (c : Char) : Bool :=
  inRange 'A' 'Z' c || inRange '0' '9' c || inRange 'a' 'z' c || c ∈ ['.', '_', '%', '+', '-']

/-- A character of a label of the domain, `[A-Za-z0-9-]`. -/
def isLabelCharacter (c : Char) : Bool :=
  inRange 'A' 'Z' c || inRange 'a' 'z' c || inRange '0' '9' c || c == '-'

/-- A character of the last label, `[A-Za-z]`. -/
def isLetter (c : Char) : Bool := inRange 'A' 'Z' c || inRange 'a' 'z' c

/-- An address cut at its `@` and at the dots behind it. -/
structure EmailAddress where
  localPart : List Char
  /-- The labels in front of the last one. -/
  labels : List (List Char)
  last : List Char

namespace EmailAddress

/-- The domain: the labels, separated by single dots. -/
def domain (address : EmailAddress) : List Char :=
  ['.'].intercalate (address.labels ++ [address.last])

/-- `local@domain`. -/
def text (address : EmailAddress) : List Char := address.localPart ++ '@' :: address.domain

/-- A local part, at least two labels and a last label of 2 to 64 letters. Of the
labels in front of the last only the characters are asked for. -/
structure WellFormed (address : EmailAddress) : Prop where
  localPart_ne : address.localPart ≠ []
  localPart_over : ∀ c ∈ address.localPart, isLocalCharacter c = true
  labels_ne : address.labels ≠ []
  labels_over : ∀ label ∈ address.labels, ∀ c ∈ label, isLabelCharacter c = true
  two_le_last : 2 ≤ address.last.length
  last_le : address.last.length ≤ 64
  last_over : ∀ c ∈ address.last, isLetter c = true

namespace WellFormed

variable {address other : EmailAddress}

/-- Every label is over the characters of a label, the last one included. -/
theorem label_over (formed : address.WellFormed) :
    ∀ label ∈ address.labels ++ [address.last], ∀ c ∈ label, isLabelCharacter c = true := by
  intro label member c inLabel
  rcases List.mem_append.mp member with inFront | isLast
  · exact formed.labels_over label inFront c inLabel
  · obtain rfl := List.mem_singleton.mp isLast
    have letter := formed.last_over c inLabel
    rw [isLetter] at letter
    rw [isLabelCharacter, letter]
    rfl

theorem dot_notMem (formed : address.WellFormed) :
    ∀ label ∈ address.labels ++ [address.last], '.' ∉ label := by
  intro label member dot
  cases formed.label_over label member '.' dot

theorem at_notMem_localPart (formed : address.WellFormed) : '@' ∉ address.localPart := by
  intro member
  cases formed.localPart_over '@' member

theorem at_notMem_domain (formed : address.WellFormed) : '@' ∉ address.domain := by
  intro member
  have dotOrLabel : ∀ c ∈ address.domain, c = '.' ∨ isLabelCharacter c = true :=
    Lists.eq_or_of_mem_intercalate formed.label_over
  rcases dotOrLabel '@' member with isDot | inLabel
  · cases isDot
  · cases inLabel

/-- A text is the text of one address only. -/
theorem eq_of_text_eq (formed : address.WellFormed) (formed' : other.WellFormed)
    (same : address.text = other.text) : address = other := by
  obtain ⟨sameLocal, -, sameDomain⟩ := (List.append_cons_inj_of_notMem formed.at_notMem_localPart
    formed.at_notMem_domain).mp same
  have sameLabels : address.labels ++ [address.last] = other.labels ++ [other.last] := by
    rw [← List.splitOn_intercalate '.' formed.dot_notMem (by simp),
      ← List.splitOn_intercalate '.' formed'.dot_notMem (by simp)]
    exact congrArg (List.splitOn '.') sameDomain
  obtain ⟨labels, last⟩ := List.append_singleton_inj.mp sameLabels
  cases address
  cases other
  cases sameLocal
  cases labels
  cases last
  rfl

end WellFormed

end EmailAddress

section Email

variable {value : String}

/-- The three parts the expression asks for. The class of the middle one contains
the dot. -/
theorem matchesRegex_emailRegEx_iff :
    matchesRegex emailRegEx value = true ↔
      ∃ localPart name last, value.toList = localPart ++ '@' :: (name ++ '.' :: last) ∧
        (localPart ≠ [] ∧ ∀ c ∈ localPart, isLocalCharacter c = true) ∧
        (name ≠ [] ∧ ∀ c ∈ name, c = '.' ∨ isLabelCharacter c = true) ∧
        2 ≤ last.length ∧ last.length ≤ 64 ∧ ∀ c ∈ last, isLetter c = true := by
  have inName : ∀ c : Char, (inRange 'A' 'Z' c || inRange 'a' 'z' c || inRange '0' '9' c ||
      c ∈ ['.', '-']) = true ↔ c = '.' ∨ isLabelCharacter c = true := by
    intro c
    simp only [isLabelCharacter, List.mem_cons, List.not_mem_nil, or_false, Bool.or_eq_true,
      decide_eq_true_eq, beq_iff_eq]
    tauto
  rw [matchesRegex, emailRegEx, Regex.fullMatch_seq]
  constructor
  · rintro ⟨localPart, rest, cut, matchedLocal, matchedRest⟩
    obtain ⟨atSign, domain, rfl, isAt, matchedDomain⟩ := Regex.fullMatch_one_seq.mp matchedRest
    obtain ⟨name, dotted, rfl, matchedName, matchedDotted⟩ := Regex.fullMatch_seq.mp matchedDomain
    obtain ⟨dot, last, rfl, isDot, matchedLast⟩ := Regex.fullMatch_one_seq.mp matchedDotted
    obtain rfl := eq_of_beq isAt
    obtain rfl := eq_of_beq isDot
    obtain ⟨name_ne, name_over⟩ := Regex.fullMatch_plus_one.mp matchedName
    refine ⟨localPart, name, last, cut, Regex.fullMatch_plus_one.mp matchedLocal, ⟨name_ne, ?_⟩,
      (Regex.fullMatch_between_one (by omega)).mp matchedLast⟩
    intro c member
    exact (inName c).mp (name_over c member)
  · rintro ⟨localPart, name, last, cut, isLocal, ⟨name_ne, name_over⟩, isLast⟩
    refine ⟨localPart, '@' :: (name ++ '.' :: last), cut, Regex.fullMatch_plus_one.mpr isLocal, ?_⟩
    refine Regex.fullMatch_one_seq.mpr ⟨'@', name ++ '.' :: last, rfl, rfl, ?_⟩
    refine Regex.fullMatch_seq.mpr ⟨name, '.' :: last, rfl, ?_, ?_⟩
    · refine Regex.fullMatch_plus_one.mpr ⟨name_ne, ?_⟩
      intro c member
      exact (inName c).mpr (name_over c member)
    · refine Regex.fullMatch_one_seq.mpr ⟨'.', last, rfl, rfl, ?_⟩
      exact (Regex.fullMatch_between_one (by omega)).mpr isLast

/-- The expression matches no empty text, so the check for it only chooses the
message. -/
theorem invalidEmail_eq_none_iff :
    invalidEmail value = none ↔ matchesRegex emailRegEx value = true := by
  unfold invalidEmail
  by_cases empty : value = ""
  · subst empty
    constructor
    · rintro ⟨⟩
    · intro matched
      obtain ⟨localPart, name, last, cut, -⟩ := matchesRegex_emailRegEx_iff.mp matched
      simp at cut
  · cases matchesRegex emailRegEx value <;> simp [empty]

end Email

/-- **The email grammar.** A text is accepted as an email exactly when it is a local
part, an `@` and at least two labels separated by dots. The labels in front of the last
may be empty, as in `a@b..co` and `a@.b.co`; only a label that stands alone there may
not. -/
theorem email_grammar_iff (value : String) :
    invalidEmail value = none ↔
      ∃ address : EmailAddress, address.WellFormed ∧ address.labels ≠ [[]] ∧
        value.toList = address.text := by
  rw [invalidEmail_eq_none_iff, matchesRegex_emailRegEx_iff]
  constructor
  · rintro ⟨localPart, name, last, cut, ⟨local_ne, local_over⟩, ⟨name_ne, name_over⟩, two_le, le,
      last_over⟩
    -- the dots of the name cut it into its labels
    obtain ⟨labels, labels_ne, rfl, labels_over⟩ := Lists.exists_eq_intercalate name_over
    refine ⟨⟨localPart, labels, last⟩,
      ⟨local_ne, local_over, labels_ne, labels_over, two_le, le, last_over⟩, ?_, ?_⟩
    · rintro rfl
      exact name_ne rfl
    · rw [cut, EmailAddress.text, EmailAddress.domain, Lists.intercalate_concat labels_ne]
  · rintro ⟨address, formed, notAlone, cut⟩
    refine ⟨address.localPart, ['.'].intercalate address.labels, address.last, ?_,
      ⟨formed.localPart_ne, formed.localPart_over⟩, ⟨?_, ?_⟩, formed.two_le_last, formed.last_le,
      formed.last_over⟩
    · rw [cut, EmailAddress.text, EmailAddress.domain, Lists.intercalate_concat formed.labels_ne]
    · intro empty
      exact notAlone (Lists.intercalate_eq_nil formed.labels_ne empty)
    · exact Lists.eq_or_of_mem_intercalate formed.labels_over

/-- The domain `b..co` has an empty label and is accepted. -/
theorem email_empty_label :
    (∀ c ∈ "a@b..co".toList, isLineTerminator c = false) ∧
      invalidEmail "a@b..co" = none ∧
      ¬∃ address : EmailAddress, address.WellFormed ∧ (∀ label ∈ address.labels, label ≠ []) ∧
        "a@b..co".toList = address.text := by
  refine ⟨oneLine_of_all rfl, rfl, ?_⟩
  rintro ⟨address, formed, nonempty, cut⟩
  have doubled : EmailAddress.WellFormed ⟨['a'], [['b'], []], ['c', 'o']⟩ :=
    ⟨by simp, by simp [isLocalCharacter, inRange], by simp, by simp [isLabelCharacter, inRange],
      by simp, by simp, by simp [isLetter, inRange]⟩
  -- the text has no other reading than the one with the empty label
  obtain rfl := formed.eq_of_text_eq doubled cut.symm
  exact nonempty [] (by simp) rfl

/-! ### Phone numbers -/

/-- What the check of a phone number takes from Unicode: on ASCII the category Nd is
`0` to `9`, and a text of digits has a character for each scalar. -/
structure Foundation.UnicodeDigits (foundation : Foundation) : Prop where
  ascii : ∀ c : Char, c.val < 128 →
    (foundation.decimalDigits c = true ↔ inRange '0' '9' c = true)
  single : ∀ text : String, (∀ c ∈ text.toList, foundation.decimalDigits c = true) →
    foundation.count text = text.toList.length

/-- The three checks, of which that for the empty text is implied by the length. -/
theorem invalidPhoneNumber_eq_none_iff {foundation : Foundation}
    (digits : foundation.UnicodeDigits) (value : String) :
    invalidPhoneNumber foundation value = none ↔
      value.toList.length = 10 ∧ ∀ c ∈ value.toList, foundation.decimalDigits c = true := by
  unfold invalidPhoneNumber
  by_cases all : ∀ c ∈ value.toList, foundation.decimalDigits c = true
  · have count := digits.single value all
    by_cases empty : value = ""
    · simp [empty]
    · by_cases ten : value.toList.length = 10
      · simpa [empty, List.all_eq_true.mpr all, count, ten] using all
      · simp [empty, List.all_eq_true.mpr all, count, ten]
  · have notAll : value.toList.all foundation.decimalDigits = false := by
      rw [Bool.eq_false_iff]
      intro allDigits
      exact all (List.all_eq_true.mp allDigits)
    by_cases empty : value = ""
    · simp [empty]
    · simp [empty, notAll, all]

/-- **The phone grammar.** A text is accepted as a phone number exactly when it is ten
decimal digits, of any script. Among the ASCII texts these are the ten characters from
`0` to `9`. -/
theorem phone_grammar_iff {foundation : Foundation} (digits : foundation.UnicodeDigits)
    (value : String) :
    (invalidPhoneNumber foundation value = none ↔
      value.toList.length = 10 ∧ ∀ c ∈ value.toList, foundation.decimalDigits c = true) ∧
      ((∀ c ∈ value.toList, c.val < 128) →
        (invalidPhoneNumber foundation value = none ↔
          value.toList.length = 10 ∧ ∀ c ∈ value.toList, inRange '0' '9' c = true)) := by
  have grammar := invalidPhoneNumber_eq_none_iff digits value
  refine ⟨grammar, ?_⟩
  intro ascii
  rw [grammar]
  have same : (∀ c ∈ value.toList, foundation.decimalDigits c = true) ↔
      ∀ c ∈ value.toList, inRange '0' '9' c = true := by
    apply forall₂_congr
    intro c member
    exact digits.ascii c (ascii c member)
  rw [same]

/-- A choice of the text functions whose digits are those of two scripts, from `0` to
`9` and from `٠` to `٩`. -/
def Foundation.twoScripts : Foundation :=
  { Foundation.ascii with
    decimalDigits := fun c => inRange '0' '9' c || inRange '٠' '٩' c }

theorem Foundation.twoScripts_unicodeDigits : Foundation.twoScripts.UnicodeDigits := by
  constructor
  case ascii =>
    intro c ascii
    have other : inRange '٠' '٩' c = false := by
      rw [inRange, Bool.and_eq_false_iff]
      left
      have large : ('٠' : Char).val = 1632 := rfl
      rw [decide_eq_false_iff_not, large]
      intro le
      have below := UInt32.lt_of_le_of_lt le ascii
      exact absurd below (by decide)
    simp [Foundation.twoScripts, other]
  case single =>
    intro text _
    exact String.length_toList.symm

/-- Ten digits. -/
theorem phone_grammar_ten :
    Foundation.twoScripts.UnicodeDigits ∧
      invalidPhoneNumber .twoScripts "0912345678" = none := by
  refine ⟨Foundation.twoScripts_unicodeDigits, ?_⟩
  have grammar := (phone_grammar_iff Foundation.twoScripts_unicodeDigits "0912345678").1
  exact grammar.mpr ⟨rfl, List.all_eq_true.mp rfl⟩

/-- Ten Arabic-Indic digits are accepted, and none of them is from `0` to `9`. -/
theorem phone_other_script :
    Foundation.twoScripts.UnicodeDigits ∧
      invalidPhoneNumber .twoScripts "٠١٢٣٤٥٦٧٨٩" = none ∧
      ¬∀ c ∈ "٠١٢٣٤٥٦٧٨٩".toList, inRange '0' '9' c = true := by
  refine ⟨Foundation.twoScripts_unicodeDigits, rfl, ?_⟩
  intro all
  cases all '٠' (by decide)

end PetApp
