/-!
# Character classes

Two classes of the Unicode character database decide how names are cleaned and trimmed:
the control characters (general category Cc) and the white space characters (property
White_Space, twenty-five code points). Trimming removes white space from both ends, and
words are the runs of other characters between white space.

## Main statements

* `isWhiteSpace_of_isWhitespace`: every ASCII blank that core knows is white space here.
* `trim_eq`: trimming drops exactly the white space at each end.
-/

namespace DownloadEngine.Text

/-- General category Cc: U+0000 to U+001F and U+007F to U+009F. -/
def isControl (c : Char) : Bool :=
  c.val < 0x20 || (0x7F ≤ c.val && c.val ≤ 0x9F)

/-- The White_Space property: tab to carriage return, space, next line, no-break space,
ogham space mark, the spaces U+2000 to U+200A, line and paragraph separators, narrow
no-break space, medium mathematical space and ideographic space. -/
def isWhiteSpace (c : Char) : Bool :=
  let v := c.val
  (0x09 ≤ v && v ≤ 0x0D) || v == 0x20 || v == 0x85 || v == 0xA0 || v == 0x1680 ||
    (0x2000 ≤ v && v ≤ 0x200A) || v == 0x2028 || v == 0x2029 || v == 0x202F ||
    v == 0x205F || v == 0x3000

/-- Drops white space from the front of a character list. -/
def dropBlankFront (cs : List Char) : List Char := cs.dropWhile isWhiteSpace

/-- Drops white space from the back of a character list. -/
def dropBlankBack (cs : List Char) : List Char := (cs.reverse.dropWhile isWhiteSpace).reverse

/-- The text without white space at either end. -/
def trim (s : String) : String := String.ofList (dropBlankBack (dropBlankFront s.toList))

/-- The text without white space at its start. -/
def trimStart (s : String) : String := String.ofList (dropBlankFront s.toList)

/-- The text without white space at its end. -/
def trimEnd (s : String) : String := String.ofList (dropBlankBack s.toList)

/-- Is the text empty once trimmed? -/
def isBlank (s : String) : Bool := s.toList.all isWhiteSpace

/-- The white-space-separated words of a text, in order. -/
def words (s : String) : List String :=
  ((s.toList.splitBy fun a b => isWhiteSpace a == isWhiteSpace b).filter
    fun w => !w.all isWhiteSpace).map String.ofList

theorem isWhiteSpace_of_isWhitespace (c : Char) (h : c.isWhitespace = true) :
    isWhiteSpace c = true := by
  simp only [Char.isWhitespace, Bool.or_eq_true, decide_eq_true_eq] at h
  simp only [isWhiteSpace, Bool.or_eq_true, Bool.and_eq_true, beq_iff_eq, decide_eq_true_eq]
  rcases h with ((h | h) | h) | h <;> subst h <;> decide

theorem trim_eq (s : String) :
    (trim s).toList = dropBlankBack (dropBlankFront s.toList) := by
  simp [trim]

end DownloadEngine.Text
