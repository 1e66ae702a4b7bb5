import DownloadEngine.Text.CombiningClass
import DownloadEngine.Text.Decomposition

/-!
# Normalization Form C

Text is brought to Normalization Form C in three steps.

1. Each character is replaced by its full canonical decomposition; a Hangul syllable stands
   for its leading consonant, vowel and, if any, trailing consonant.
2. Each run of characters with a non-zero combining class is sorted by class, keeping the
   order of marks of equal class.
3. Each character is composed with the last starter before it when the two have a primary
   composite and nothing between them blocks: a character between them blocks when its class
   is zero or at least the character's own.

## Main statements

* `decomposeWith_zero`: with no depth left a character stands for itself.
-/

namespace DownloadEngine.Text

/-- The first Hangul syllable. -/
def hangulBase : Nat := 0xAC00

/-- The first leading consonant jamo. -/
def leadBase : Nat := 0x1100

/-- The first vowel jamo. -/
def vowelBase : Nat := 0x1161

/-- The code point before the first trailing consonant jamo: a trailing index of zero means
no trailing consonant. -/
def trailBase : Nat := 0x11A7

/-- How many leading consonants there are. -/
def leadCount : Nat := 19

/-- How many vowels there are. -/
def vowelCount : Nat := 21

/-- How many trailing consonants there are, counting none as one. -/
def trailCount : Nat := 28

/-- How many syllables share a leading consonant. -/
def syllablesPerLead : Nat := vowelCount * trailCount

/-- How many syllables there are. -/
def syllableCount : Nat := leadCount * syllablesPerLead

/-- The jamo of a Hangul syllable. -/
def hangulJamo? (c : Char) : Option (List Char) :=
  let n := c.toNat
  if hangulBase ≤ n ∧ n < hangulBase + syllableCount then
    let s := n - hangulBase
    let lead := Char.ofNat (leadBase + s / syllablesPerLead)
    let vowel := Char.ofNat (vowelBase + s % syllablesPerLead / trailCount)
    let trail := s % trailCount
    some (if trail = 0 then [lead, vowel] else [lead, vowel, Char.ofNat (trailBase + trail)])
  else none

/-- The Hangul syllable of a leading consonant and a vowel, or of a syllable without trailing
consonant and a trailing consonant. -/
def hangulComposite? (a b : Char) : Option Char :=
  let x := a.toNat
  let y := b.toNat
  if leadBase ≤ x ∧ x < leadBase + leadCount ∧ vowelBase ≤ y ∧ y < vowelBase + vowelCount then
    some (Char.ofNat (hangulBase + ((x - leadBase) * vowelCount + (y - vowelBase)) * trailCount))
  else if hangulBase ≤ x ∧ x < hangulBase + syllableCount ∧ (x - hangulBase) % trailCount = 0 ∧
      trailBase < y ∧ y < trailBase + trailCount then
    some (Char.ofNat (x + (y - trailBase)))
  else none

/-- The canonical decomposition of a character, followed at most `depth` levels deep. -/
def decomposeWith : Nat → Char → List Char
  | 0, c => [c]
  | depth + 1, c =>
    match hangulJamo? c with
    | some jamo => jamo
    | none =>
      match decomposition? c with
      | some parts => parts.flatMap (decomposeWith depth)
      | none => [c]

/-- How deep canonical decompositions nest, at most. -/
def decompositionDepth : Nat := 8

/-- The full canonical decomposition of a text. -/
def decompose (cs : List Char) : List Char := cs.flatMap (decomposeWith decompositionDepth)

/-- A run of non-starters sorted by combining class, equal classes in their order. -/
def sortByClass (run : List Char) : List Char :=
  run.mergeSort fun a b => combiningClass a ≤ combiningClass b

/-- Sorts every run of non-starters by combining class. -/
def reorder (cs : List Char) : List Char :=
  let (done, run) := cs.foldl (fun (done, run) c =>
    if combiningClass c = 0 then (done ++ sortByClass run ++ [c], [])
    else (done, run ++ [c])) ([], [])
  done ++ sortByClass run

/-- The primary composite of two characters, Hangul included. -/
def composite? (a b : Char) : Option Char :=
  match hangulComposite? a b with
  | some c => some c
  | none => composition? a b

/-- The state of composition: the text so far, the position of its last starter, and the
class of its last character that was not composed away (256 before any starter). -/
structure Composer where
  done : List Char
  starter : Option Nat
  lastClass : Nat

/-- Takes one more character: composes it with the last starter when nothing blocks, and
keeps it otherwise. -/
def Composer.push (st : Composer) (c : Char) : Composer :=
  let cls := combiningClass c
  let composed := match st.starter with
    | some p =>
      match st.done[p]? with
      | some s =>
        if st.lastClass < cls ∨ st.lastClass = 0 then
          (composite? s c).map fun k => { st with done := st.done.set p k }
        else none
      | none => none
    | none => none
  match composed with
  | some st => st
  | none =>
    { done := st.done ++ [c]
      starter := if cls = 0 then some st.done.length else st.starter
      lastClass := cls }

/-- Composes a decomposed, reordered text. -/
def compose (cs : List Char) : List Char := (cs.foldl Composer.push ⟨[], none, 256⟩).done

/-- The text in Normalization Form C. -/
def nfc (cs : List Char) : List Char := compose (reorder (decompose cs))

/-- Whether a text is in Normalization Form C. -/
def isNfc (cs : List Char) : Bool := nfc cs == cs

theorem decomposeWith_zero (c : Char) : decomposeWith 0 c = [c] := rfl

end DownloadEngine.Text
