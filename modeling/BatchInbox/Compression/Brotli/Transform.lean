import BatchInbox.Compression.Brotli.Dictionary

/-!
# Words in the forms in which they occur

A reference to the static dictionary names a word and one of 121 transforms: the word may lose
letters at either end or be capitalised, and stands between two affixes.
-/

set_option autoImplicit false
namespace BatchInbox.Brotli

/-- What happens to the word itself. -/
inductive WordForm where
  | omitLast (count : Nat)
  | omitFirst (count : Nat)
  | capitalizeFirst
  | capitalizeAll

/-- A form between two affixes. -/
structure Transform where
  before : String
  form : WordForm
  after : String

/-- The word as it is. -/
def WordForm.plain : WordForm := .omitLast 0

open WordForm in
/-- All transforms, in the order of their numbers. -/
def transforms : Array Transform :=
  #[⟨"", plain, ""⟩, ⟨"", plain, " "⟩, ⟨" ", plain, " "⟩, ⟨"", omitFirst 1, ""⟩,
    ⟨"", capitalizeFirst, " "⟩, ⟨"", plain, " the "⟩, ⟨" ", plain, ""⟩, ⟨"s ", plain, " "⟩,
    ⟨"", plain, " of "⟩, ⟨"", capitalizeFirst, ""⟩, ⟨"", plain, " and "⟩, ⟨"", omitFirst 2, ""⟩,
    ⟨"", omitLast 1, ""⟩, ⟨", ", plain, " "⟩, ⟨"", plain, ", "⟩, ⟨" ", capitalizeFirst, " "⟩,
    ⟨"", plain, " in "⟩, ⟨"", plain, " to "⟩, ⟨"e ", plain, " "⟩, ⟨"", plain, "\""⟩,
    ⟨"", plain, "."⟩, ⟨"", plain, "\">"⟩, ⟨"", plain, "\n"⟩, ⟨"", omitLast 3, ""⟩, ⟨"", plain, "]"⟩,
    ⟨"", plain, " for "⟩, ⟨"", omitFirst 3, ""⟩, ⟨"", omitLast 2, ""⟩, ⟨"", plain, " a "⟩,
    ⟨"", plain, " that "⟩, ⟨" ", capitalizeFirst, ""⟩, ⟨"", plain, ". "⟩, ⟨".", plain, ""⟩,
    ⟨" ", plain, ", "⟩, ⟨"", omitFirst 4, ""⟩, ⟨"", plain, " with "⟩, ⟨"", plain, "'"⟩,
    ⟨"", plain, " from "⟩, ⟨"", plain, " by "⟩, ⟨"", omitFirst 5, ""⟩, ⟨"", omitFirst 6, ""⟩,
    ⟨" the ", plain, ""⟩, ⟨"", omitLast 4, ""⟩, ⟨"", plain, ". The "⟩, ⟨"", capitalizeAll, ""⟩,
    ⟨"", plain, " on "⟩, ⟨"", plain, " as "⟩, ⟨"", plain, " is "⟩, ⟨"", omitLast 7, ""⟩,
    ⟨"", omitLast 1, "ing "⟩, ⟨"", plain, "\n\t"⟩, ⟨"", plain, ":"⟩, ⟨" ", plain, ". "⟩,
    ⟨"", plain, "ed "⟩, ⟨"", omitFirst 9, ""⟩, ⟨"", omitFirst 7, ""⟩, ⟨"", omitLast 6, ""⟩,
    ⟨"", plain, "("⟩, ⟨"", capitalizeFirst, ", "⟩, ⟨"", omitLast 8, ""⟩, ⟨"", plain, " at "⟩,
    ⟨"", plain, "ly "⟩, ⟨" the ", plain, " of "⟩, ⟨"", omitLast 5, ""⟩, ⟨"", omitLast 9, ""⟩,
    ⟨" ", capitalizeFirst, ", "⟩, ⟨"", capitalizeFirst, "\""⟩, ⟨".", plain, "("⟩,
    ⟨"", capitalizeAll, " "⟩, ⟨"", capitalizeFirst, "\">"⟩, ⟨"", plain, "=\""⟩, ⟨" ", plain, "."⟩,
    ⟨".com/", plain, ""⟩, ⟨" the ", plain, " of the "⟩, ⟨"", capitalizeFirst, "'"⟩,
    ⟨"", plain, ". This "⟩, ⟨"", plain, ","⟩, ⟨".", plain, " "⟩, ⟨"", capitalizeFirst, "("⟩,
    ⟨"", capitalizeFirst, "."⟩, ⟨"", plain, " not "⟩, ⟨" ", plain, "=\""⟩, ⟨"", plain, "er "⟩,
    ⟨" ", capitalizeAll, " "⟩, ⟨"", plain, "al "⟩, ⟨" ", capitalizeAll, ""⟩, ⟨"", plain, "='"⟩,
    ⟨"", capitalizeAll, "\""⟩, ⟨"", capitalizeFirst, ". "⟩, ⟨" ", plain, "("⟩, ⟨"", plain, "ful "⟩,
    ⟨" ", capitalizeFirst, ". "⟩, ⟨"", plain, "ive "⟩, ⟨"", plain, "less "⟩,
    ⟨"", capitalizeAll, "'"⟩, ⟨"", plain, "est "⟩, ⟨" ", capitalizeFirst, "."⟩,
    ⟨"", capitalizeAll, "\">"⟩, ⟨" ", plain, "='"⟩, ⟨"", capitalizeFirst, ","⟩, ⟨"", plain, "ize "⟩,
    ⟨"", capitalizeAll, "."⟩, ⟨"\u00a0", plain, ""⟩, ⟨" ", plain, ","⟩,
    ⟨"", capitalizeFirst, "=\""⟩, ⟨"", capitalizeAll, "=\""⟩, ⟨"", plain, "ous "⟩,
    ⟨"", capitalizeAll, ", "⟩, ⟨"", capitalizeFirst, "='"⟩, ⟨" ", capitalizeFirst, ","⟩,
    ⟨" ", capitalizeAll, "=\""⟩, ⟨" ", capitalizeAll, ", "⟩, ⟨"", capitalizeAll, ","⟩,
    ⟨"", capitalizeAll, "("⟩, ⟨"", capitalizeAll, ". "⟩, ⟨" ", capitalizeAll, "."⟩,
    ⟨"", capitalizeAll, "='"⟩, ⟨" ", capitalizeAll, ". "⟩, ⟨" ", capitalizeFirst, "=\""⟩,
    ⟨" ", capitalizeAll, "='"⟩, ⟨" ", capitalizeFirst, "='"⟩]

/-! ## Capital letters -/

/-- Capitalises the characters of a word, or only the first one, by the rule of thumb that serves
the scripts of the dictionary: one bit of an ASCII letter or of the second byte of a two-byte
character, two bits of the third byte of a longer one. -/
def capitalize (onlyFirst : Bool) : Bytes → Bytes
  | [] => []
  | a :: rest =>
    if a < 0xc0 then
      (if 0x61 ≤ a ∧ a ≤ 0x7a then a ^^^ 0x20 else a) ::
        if onlyFirst then rest else capitalize onlyFirst rest
    else if a < 0xe0 then
      match rest with
      | b :: rest => a :: (b ^^^ 0x20) :: if onlyFirst then rest else capitalize onlyFirst rest
      | [] => [a]
    else
      match rest with
      | b :: c :: rest =>
        a :: b :: (c ^^^ 0x05) :: if onlyFirst then rest else capitalize onlyFirst rest
      | rest => a :: rest

/-- The word in the given form. -/
def WordForm.apply (form : WordForm) (word : Bytes) : Bytes :=
  match form with
  | omitLast count => word.take (word.length - count)
  | omitFirst count => word.drop count
  | capitalizeFirst => capitalize true word
  | capitalizeAll => capitalize false word

/-- The word in the given form, with its affixes. -/
def Transform.apply (transform : Transform) (word : Bytes) : Bytes :=
  transform.before.toUTF8.toList ++ transform.form.apply word ++ transform.after.toUTF8.toList

/-- The bytes that `index` stands for among the words of `length` bytes and their transforms. -/
def lookup? (length index : Nat) : Option Bytes :=
  match row? length with
  | none => none
  | some (row, width) =>
    match transforms[index >>> width]? with
    | none => none
    | some transform =>
      let start := index % (1 <<< width) * length
      some (transform.apply (row.extract start (start + length)).toList)

end BatchInbox.Brotli
