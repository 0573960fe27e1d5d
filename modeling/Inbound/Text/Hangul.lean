/-!
# Syllables of Hangul

A syllable is one character, or the same text letter by letter: a leading consonant, a vowel and
perhaps a trailing consonant. The syllables are numbered by their letters, so that no table is
needed.
-/

namespace Inbound.Text.Hangul

/-- The first syllable. -/
def firstSyllable : Nat := 0xAC00

/-- The first leading consonant. -/
def firstLeading : Nat := 0x1100

/-- The first vowel. -/
def firstVowel : Nat := 0x1161

/-- The code point before the first trailing consonant, which stands for the lack of one. -/
def noTrailing : Nat := 0x11A7

/-- How many leading consonants there are. -/
def leadingCount : Nat := 19

/-- How many vowels there are. -/
def vowelCount : Nat := 21

/-- How many trailing consonants there are, the lack of one included. -/
def trailingCount : Nat := 28

/-- The number of a syllable, if `c` is one. -/
def number? (c : Char) : Option Nat :=
  let number := c.toNat - firstSyllable
  if firstSyllable ≤ c.toNat && number < leadingCount * vowelCount * trailingCount then some number
  else none

/-- The letters of a syllable. -/
def letters? (c : Char) : Option (List Char) :=
  (number? c).map fun number =>
    let leading := firstLeading + number / (vowelCount * trailingCount)
    let vowel := firstVowel + number / trailingCount % vowelCount
    let trailing := number % trailingCount
    [Char.ofNat leading, Char.ofNat vowel]
      ++ if trailing == 0 then [] else [Char.ofNat (noTrailing + trailing)]

/-- The syllable that a vowel makes of a leading consonant, or a trailing consonant of a syllable
without one. -/
def compose? (a b : Char) : Option Char :=
  let leading := a.toNat - firstLeading
  let vowel := b.toNat - firstVowel
  let trailing := b.toNat - noTrailing
  if firstLeading ≤ a.toNat && leading < leadingCount
      && firstVowel ≤ b.toNat && vowel < vowelCount then
    some (Char.ofNat (firstSyllable + (leading * vowelCount + vowel) * trailingCount))
  else
    match number? a with
    | none => none
    | some number =>
      if number % trailingCount == 0 && noTrailing < b.toNat && trailing < trailingCount then
        some (Char.ofNat (a.toNat + trailing))
      else none

end Inbound.Text.Hangul
