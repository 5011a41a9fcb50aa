/-! # Lines, fields and columns

A text is cut into lines at line feeds, and a line into fields at commas. What is
read is freed of white space at its ends. What is written is filled up with
spaces to the width of its column, counted in characters.
-/

namespace CurveFitting.Text

/-- The characters with the property `White_Space`. -/
def blankRanges : List (Nat × Nat) :=
  [(0x9, 0xd), (0x20, 0x20), (0x85, 0x85), (0xa0, 0xa0), (0x1680, 0x1680),
    (0x2000, 0x200a), (0x2028, 0x2029), (0x202f, 0x202f), (0x205f, 0x205f),
    (0x3000, 0x3000)]

def isBlank (character : Char) : Bool :=
  blankRanges.any fun (first, last) =>
    first ≤ character.toNat && character.toNat ≤ last

/-- Twenty-five characters are white space. -/
example : (blankRanges.map fun (first, last) => last + 1 - first).sum = 25 := by decide

/-- The text without white space at its ends. -/
def trim (text : List Char) : List Char :=
  ((text.dropWhile isBlank).reverse.dropWhile isBlank).reverse

/-- The pieces between the occurrences of a separator, at least one. -/
def separated (separator : Char) (text : List Char) : List (List Char) :=
  text.foldr (fun character pieces =>
    match pieces with
    | [] => [[character]]
    | piece :: rest =>
        if character = separator then [] :: piece :: rest
        else (character :: piece) :: rest) [[]]

example : separated ',' "a,,b".toList = [['a'], [], ['b']] := by decide +kernel

def dropCarriageReturn (line : List Char) : List Char :=
  if line.getLast? = some '\r' then line.dropLast else line

/-- The lines of a text. A line feed ends a line, together with a carriage return
directly before it, and nothing after the last line feed is no line. -/
def lines (text : List Char) : List (List Char) :=
  let pieces := separated '\n' text
  pieces.dropLast.map dropCarriageReturn ++
    (pieces.getLast?.filter fun piece => !piece.isEmpty).toList

example : lines "a\r\n\nb\r".toList = [['a'], [], ['b', '\r']] := by decide +kernel

def spaces (count : Nat) : String := String.ofList (List.replicate count ' ')

/-- The text at the left of its column. -/
def left (width : Nat) (text : String) : String := text ++ spaces (width - text.length)

/-- The text at the right of its column. -/
def right (width : Nat) (text : String) : String := spaces (width - text.length) ++ text

end CurveFitting.Text
