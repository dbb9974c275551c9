/-! Pieces of a text between two places; places count bytes of UTF-8. -/

namespace MediaSocket.Text

def byteSize (text : List Char) : Nat := text.foldl (fun n c => n + c.utf8Size) 0

/-- The text from a place on, unless the place is inside a character or after the end. -/
def drop? : Nat → List Char → Option (List Char)
  | 0, cs => some cs
  | _ + 1, [] => none
  | n + 1, c :: rest => if c.utf8Size ≤ n + 1 then drop? (n + 1 - c.utf8Size) rest else none

/-- The text up to a place, unless the place is inside a character or after the end. -/
def take? : Nat → List Char → Option (List Char)
  | 0, _ => some []
  | _ + 1, [] => none
  | n + 1, c :: rest =>
    if c.utf8Size ≤ n + 1 then (take? (n + 1 - c.utf8Size) rest).map (c :: ·) else none

def slice? (start stop : Nat) (text : List Char) : Option (List Char) :=
  (drop? start text).bind (take? (stop - start))

/-- The place of the first character that ends a piece, and the text from there on; `place` is
where the text starts. -/
def seek (ends : Char → Bool) (place : Nat) : List Char → Nat × List Char
  | [] => (place, [])
  | c :: rest => if ends c then (place, c :: rest) else seek ends (place + c.utf8Size) rest

end MediaSocket.Text
