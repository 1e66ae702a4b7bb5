/-!
# Command arguments

A command's words are positional values and options. An option is written `--name value`,
`--name=value`, `-x value` or `-xvalue` for its short letter `x`; a flag takes no value. A
word that starts with `-` is not taken as a value; after `--` every word is positional.

Reading fails, with the text that tells why, on an unknown option, a flag given a value, an
option given no value, and an option given twice.

## Main statements

* `read_positional`: words that do not start with `-` are all positional, in order.
-/

namespace DownloadEngine.CommandLine

/-- An option a command takes. -/
structure OptionSpec where
  /-- Its long name, written after `--`. -/
  long : String
  /-- Its short letter, written after `-`. -/
  short : Option Char
  /-- What its value is called in messages, such as `PROJECT`; a flag has none. -/
  placeholder : Option String
  deriving DecidableEq, Repr

/-- How an option is named in messages: `--name <VALUE>`, or `--name` for a flag. -/
def OptionSpec.usage (spec : OptionSpec) : String :=
  "--" ++ spec.long ++ (spec.placeholder.map (" <" ++ · ++ ">")).getD ""

/-- A command's words once read: positional values in order, and the options given, each
with its value, or none for a flag. -/
structure Arguments where
  positional : List String
  options : List (String × Option String)
  deriving DecidableEq, Repr

namespace Arguments

/-- No words. -/
def empty : Arguments := ⟨[], []⟩

/-- The value of an option, if it was given one. -/
def value? (a : Arguments) (long : String) : Option String := (a.options.lookup long).bind id

/-- Whether an option was given. -/
def given (a : Arguments) (long : String) : Bool := (a.options.lookup long).isSome

/-- Adds an option; the second time is an error. -/
def add (a : Arguments) (spec : OptionSpec) (v : Option String) : Except String Arguments :=
  if a.given spec.long then .error ("the argument '" ++ spec.usage ++ "' cannot be used multiple times")
  else .ok { a with options := a.options ++ [(spec.long, v)] }

end Arguments

/-- Whether a word looks like an option: a dash and something after it. -/
def isOptionWord (w : String) : Bool :=
  match w.toList with
  | '-' :: _ :: _ => true
  | _ => false

/-- The text for an unexpected word. -/
def unexpected (w : String) : String := "unexpected argument '" ++ w ++ "' found"

/-- The text for an option written without its value. -/
def valueRequired (spec : OptionSpec) : String :=
  "a value is required for '" ++ spec.usage ++ "' but none was supplied"

/-- Takes an option's value from the rest of its word, or else from the next word; gives
the words left, no more than there were. -/
def takeValue (spec : OptionSpec) (inline : Option String) (rest : List String) :
    Except String (Option String × { more : List String // more.length ≤ rest.length }) :=
  match spec.placeholder, inline with
  | none, none => .ok (none, ⟨rest, Nat.le_refl _⟩)
  | none, some v =>
    .error ("unexpected value '" ++ v ++ "' for '" ++ spec.usage ++ "' found; no more were expected")
  | some _, some v => .ok (some v, ⟨rest, Nat.le_refl _⟩)
  | some _, none =>
    match rest with
    | v :: more =>
      if isOptionWord v then .error (valueRequired spec)
      else .ok (some v, ⟨more, Nat.le_succ _⟩)
    | [] => .error (valueRequired spec)

/-- Reads a command's words against the options it takes. -/
def read (specs : List OptionSpec) : List String → Arguments → Except String Arguments
  | [], a => .ok a
  | w :: rest, a =>
    if w = "--" then .ok { a with positional := a.positional ++ rest } else
    match w.toList with
    | '-' :: '-' :: body =>
      let (name, tail) := body.span (· != '=')
      match specs.find? (·.long == String.ofList name) with
      | none => .error (unexpected w)
      | some spec =>
        let inline := match tail with
          | _ :: v => some (String.ofList v)
          | [] => none
        match takeValue spec inline rest with
        | .error e => .error e
        | .ok (v, ⟨more, _⟩) =>
          match a.add spec v with
          | .error e => .error e
          | .ok a => read specs more a
    | '-' :: c :: tail =>
      match specs.find? (·.short == some c) with
      | none => .error (unexpected ("-" ++ String.ofList [c]))
      | some spec =>
        let inline := match tail with
          | [] => none
          | '=' :: v => some (String.ofList v)
          | v => some (String.ofList v)
        match takeValue spec inline rest with
        | .error e => .error e
        | .ok (v, ⟨more, _⟩) =>
          match a.add spec v with
          | .error e => .error e
          | .ok a => read specs more a
    | _ => read specs rest { a with positional := a.positional ++ [w] }
termination_by words => words.length
decreasing_by all_goals simp only [List.length_cons]; omega

theorem read_positional (specs : List OptionSpec) (ws : List String) (a : Arguments)
    (h : ∀ w ∈ ws, w.toList.head? ≠ some '-') :
    read specs ws a = .ok { a with positional := a.positional ++ ws } := by
  induction ws generalizing a with
  | nil => simp [read]
  | cons w rest ih =>
    have hw := h w List.mem_cons_self
    have hne : w ≠ "--" := by
      rintro rfl
      exact hw (by decide)
    rw [read, if_neg hne]
    split
    · rename_i body heq
      simp [heq] at hw
    · rename_i c tail heq
      simp [heq] at hw
    · rw [ih _ (fun x hx => h x (List.mem_cons_of_mem _ hx))]
      simp

end DownloadEngine.CommandLine
