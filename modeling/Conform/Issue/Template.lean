/-! # Message templates

A template is text with placeholders.  A placeholder is a dollar sign with the
longest run of letters, digits and underscores after it; it is replaced by the
first parameter of that name, and stands for itself if there is none.  Values
are not searched for placeholders again.
-/
namespace Conform

/-- A text before the first placeholder, then each placeholder's name with the
text up to the next one. -/
structure Template where
  text : List Char
  slots : List (List Char × List Char)
deriving DecidableEq, Repr

namespace Template

def isNameChar (c : Char) : Bool := c.isAlphanum || c = '_'

def split : List Char → Template
  | [] => ⟨[], []⟩
  | c :: rest =>
    let t := split rest
    if c = '$' then
      ⟨[], (t.text.takeWhile isNameChar, t.text.dropWhile isNameChar) :: t.slots⟩
    else ⟨c :: t.text, t.slots⟩

/-- What stands for a placeholder. -/
def value (params : List (String × String)) (name : List Char) : List Char :=
  match name, params.lookup (String.ofList name) with
  | _ :: _, some v => v.toList
  | _, _ => '$' :: name

def fill (params : List (String × String)) (t : Template) : List Char :=
  t.text ++ t.slots.flatMap fun slot => value params slot.1 ++ slot.2

/-- The text that a template was split from. -/
def source (t : Template) : List Char :=
  t.text ++ t.slots.flatMap fun slot => '$' :: slot.1 ++ slot.2

theorem source_split (cs : List Char) : (split cs).source = cs := by
  induction cs with
  | nil => rfl
  | cons c rest ih =>
    unfold split
    by_cases h : c = '$'
    · simpa [source, h, ← List.append_assoc] using ih
    · simpa [source, h] using ih

end Template

def render (template : String) (params : List (String × String)) : String :=
  String.ofList ((Template.split template.toList).fill params)

end Conform
