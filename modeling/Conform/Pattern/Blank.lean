import Conform.Unicode.Property

/-! # Blanks in patterns

A reader of patterns takes characters from the front of the text and returns what
is left of it, or nothing if the text is no pattern.  In verbose mode blanks and
comments are passed over between most characters.
-/
namespace Conform.Pattern

def isBlank (c : Char) : Bool := Unicode.whiteSpace.contains c.toNat

def skipBlank (inComment : Bool) : List Char → List Char
  | [] => []
  | c :: rest =>
    if inComment then skipBlank (c ≠ '\n') rest
    else if isBlank c then skipBlank false rest
    else if c = '#' then skipBlank true rest
    else c :: rest

def skip (verbose : Bool) (cs : List Char) : List Char :=
  if verbose then skipBlank false cs else cs

/-- Take the leading characters that satisfy a test, passing over blanks and
comments between them in verbose mode. -/
def takeSpaced (verbose : Bool) (test : Char → Bool) (inComment : Bool) :
    List Char → List Char × List Char
  | [] => ([], [])
  | c :: rest =>
    if inComment then takeSpaced verbose test (c ≠ '\n') rest
    else if verbose && isBlank c then takeSpaced verbose test false rest
    else if verbose && c = '#' then takeSpaced verbose test true rest
    else if test c then
      let (taken, rest) := takeSpaced verbose test false rest
      (c :: taken, rest)
    else ([], c :: rest)

/-- The next character after the first, which in verbose mode lies past blanks
and the sign of a comment. -/
def peekSpaced (verbose : Bool) : List Char → Option Char
  | [] => none
  | _ :: rest =>
    if !verbose then rest.head?
    else
      let past := match rest.dropWhile isBlank with
        | '#' :: cs => cs.dropWhile isBlank
        | cs => cs
      past.head?.or rest.head?

end Conform.Pattern
