/-!
# Lines

A line ends with a line feed, a carriage return, or the two together; a last line may lack its end.
-/
namespace Chronicle.Text

/-- The lines of a text without their ends. -/
def lines : List Char → List (List Char)
  | [] => []
  | '\r' :: '\n' :: t => [] :: lines t
  | c :: t =>
    if c = '\n' ∨ c = '\r' then [] :: lines t
    else
      match lines t with
      | [] => [[c]]
      | l :: ls => (c :: l) :: ls

/-- A text in which every line ends with a line feed alone. -/
def unifyLineEnds : List Char → List Char
  | [] => []
  | '\r' :: '\n' :: t => '\n' :: unifyLineEnds t
  | c :: t => (if c = '\r' then '\n' else c) :: unifyLineEnds t

/-- The part of a text that consists of whole lines. A carriage return at the very end may still be
half of a line's end. -/
def wholeLines (cs : List Char) : List Char :=
  let r := cs.reverse
  let r := match r with
    | '\r' :: t => t
    | t => t
  (r.dropWhile fun c => c != '\n' && c != '\r').reverse

end Chronicle.Text
