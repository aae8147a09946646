import Mathlib.Data.Rat.Defs

/-!
What the app takes from Foundation and UIKit: text functions and image values.

A `String` is a text as the list of its scalars, and this is what the regular
expressions of `Validators` read. Only the equality of Swift is up to canonical
equivalence: where two texts are compared, canonical texts are meant. Case mapping, substring search, character counting and
the Unicode digit class are fields of `Foundation`: the development proves its
results for every choice of them, and `Foundation.ascii` is a choice that agrees
with the library on ASCII texts and can be evaluated. The image decoder and
encoder are the two fields of `ImageCodec`.
-/

namespace PetApp

/-! ### Texts -/

/-- The text functions of Swift and Foundation that the app calls. -/
structure Foundation where
  /-- `String.lowercased()`. -/
  lowercased : String → String
  /-- `StringProtocol.contains(_:)` on a text and a part. -/
  contains : String → String → Bool
  /-- `String.count`, the number of characters. -/
  count : String → Nat
  /-- `CharacterSet.decimalDigits`, the Unicode category Nd. -/
  decimalDigits : Char → Bool

/-- Whether `part` occurs in `text` as a run of consecutive characters. -/
def hasInfix (part : List Char) : List Char → Bool
  | [] => part.isEmpty
  | c :: text => part.isPrefixOf (c :: text) || hasInfix part text

/-- The text functions on ASCII texts. As documented for Foundation, the empty
text is contained in no text. -/
def Foundation.ascii : Foundation where
  lowercased text := String.ofList (text.toList.map Char.toLower)
  contains text part := !part.isEmpty && hasInfix part.toList text.toList
  count := String.length
  decimalDigits := Char.isDigit

/-! ### Images -/

/-- `Foundation.Data`. -/
abbrev Data := List UInt8

/-- A `UIImage`: its size in points and its pixels. -/
structure UIImage where
  width : ℚ
  height : ℚ
  pixels : Data
deriving DecidableEq

/-- `UIImage()` has size zero and no pixels. -/
def UIImage.empty : UIImage := ⟨0, 0, []⟩

/-- `UIImage.pngData()` and `UIImage(data:)`. -/
structure ImageCodec where
  pngData : UIImage → Option Data
  decode : Data → Option UIImage

/-- A codec that stores the pixels as they are. Like the library, it has no
encoding of an image without pixels and decodes no empty data. -/
def ImageCodec.raw : ImageCodec where
  pngData image := if image.pixels.isEmpty then none else some image.pixels
  decode data := if data.isEmpty then none else some ⟨1, 1, data⟩

end PetApp
