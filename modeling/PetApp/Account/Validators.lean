import PetApp.Lib.Regex
import PetApp.Platform.Foundation

/-!
The checks of the sign-up fields: the `invalid…` functions of
`SignUpViewController.swift`, of which `LoginViewController.swift` repeats
`invalidEmail`.

Each answers an error message, or `none` for an accepted text. `NSPredicate`'s
`MATCHES` is a match of the whole text. Every check begins with the message of an
empty field, and `invalidConfirmPassword_eq_none` says what a confirmation has to
be.
-/

namespace PetApp

/-- `SELF MATCHES regex`. -/
def matchesRegex (regex : Regex Char) (value : String) : Bool := regex.fullMatch value.toList

/-- `.`: any character but a line terminator. -/
def anyCharacter : Regex Char :=
  .one fun c => !(c ∈ ['\n', '\x0b', '\x0c', '\r', '\u0085', '\u2028', '\u2029'])

/-- A range such as `A-Z`. -/
def inRange (first last c : Char) : Bool := first.val ≤ c.val && c.val ≤ last.val

/-- `[A-Z0-9a-z._%+-]+@[A-Za-z0-9.-]+\.[A-Za-z]{2,64}`. -/
def emailRegEx : Regex Char :=
  .seq (.plus (.one fun c => inRange 'A' 'Z' c || inRange '0' '9' c || inRange 'a' 'z' c ||
    c ∈ ['.', '_', '%', '+', '-'])) <|
  .seq (.one (· == '@')) <|
  .seq (.plus (.one fun c => inRange 'A' 'Z' c || inRange 'a' 'z' c || inRange '0' '9' c ||
    c ∈ ['.', '-'])) <|
  .seq (.one (· == '.')) <|
  .between (.one fun c => inRange 'A' 'Z' c || inRange 'a' 'z' c) 2 64

/-- `.*[0-9]+.*`. -/
def digitRegEx : Regex Char :=
  .seq (.star anyCharacter) (.seq (.plus (.one (inRange '0' '9'))) (.star anyCharacter))

/-- `.*[A-Z]+.*`. -/
def uppercaseRegEx : Regex Char :=
  .seq (.star anyCharacter) (.seq (.plus (.one (inRange 'A' 'Z'))) (.star anyCharacter))

/-- `containDigit`: despite its name, whether there is no digit. -/
def containDigit (value : String) : Bool := !matchesRegex digitRegEx value

/-- `containUppercase`: despite its name, whether there is no capital letter. -/
def containUppercase (value : String) : Bool := !matchesRegex uppercaseRegEx value

/-- The message of an empty field. -/
def emptyMessage : String := "Không được để trống thông tin này"

/-- `invalidFullName`. -/
def invalidFullName (value : String) : Option String :=
  if value.isEmpty then some emptyMessage else none

/-- `invalidPhoneNumber`. -/
def invalidPhoneNumber (foundation : Foundation) (value : String) : Option String :=
  if value.isEmpty then some emptyMessage
  -- `CharacterSet.decimalDigits.isSuperset(of: CharacterSet(charactersIn: value))`
  else if !value.toList.all foundation.decimalDigits then some "Số điện thoại không hợp lệ"
  else if foundation.count value != 10 then some "Số điện thoại phải 10 số"
  else none

/-- `invalidEmail`. -/
def invalidEmail (value : String) : Option String :=
  if value.isEmpty then some emptyMessage
  else if !matchesRegex emailRegEx value then some "Email không hợp lệ"
  else none

/-- `invalidPassword`. -/
def invalidPassword (foundation : Foundation) (value : String) : Option String :=
  if value.isEmpty then some emptyMessage
  else if foundation.count value < 8 then some "Mật khẩu có ít nhất 8 kí tự"
  else if containDigit value then some "Mật khẩu có ít nhất 1 số"
  else if containUppercase value then some "Mật khẩu phải có 1 kí tự in hoa"
  else none

/-- `invalidConfirmPassword`, with the text of the password field. -/
def invalidConfirmPassword (password value : String) : Option String :=
  if value.isEmpty then some emptyMessage
  else if value != password then some "Mật khẩu không chính xác"
  else none

theorem invalidConfirmPassword_eq_none {password value : String} :
    invalidConfirmPassword password value = none ↔ value ≠ "" ∧ value = password := by
  by_cases empty : value = ""
  · simp [invalidConfirmPassword, empty]
  · by_cases same : value = password <;> simp [invalidConfirmPassword, empty, same]

end PetApp
