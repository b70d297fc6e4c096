/-!
# Characters by name

A text can give a character by its name. Which names there are is settled by a table; `ascii` has
those of the printable characters of ASCII.
-/
namespace Chronicle.Text

/-- A table of characters by their names. -/
abbrev CharacterNames := String → Option Char

namespace CharacterNames

/-- The names of the signs and digits of ASCII. -/
def signs : List (String × Char) :=
  [("SPACE", ' '), ("EXCLAMATION MARK", '!'), ("QUOTATION MARK", '"'), ("NUMBER SIGN", '#'),
    ("DOLLAR SIGN", '$'), ("PERCENT SIGN", '%'), ("AMPERSAND", '&'), ("APOSTROPHE", '\''),
    ("LEFT PARENTHESIS", '('), ("RIGHT PARENTHESIS", ')'), ("ASTERISK", '*'), ("PLUS SIGN", '+'),
    ("COMMA", ','), ("HYPHEN-MINUS", '-'), ("FULL STOP", '.'), ("SOLIDUS", '/'),
    ("DIGIT ZERO", '0'), ("DIGIT ONE", '1'), ("DIGIT TWO", '2'), ("DIGIT THREE", '3'),
    ("DIGIT FOUR", '4'), ("DIGIT FIVE", '5'), ("DIGIT SIX", '6'), ("DIGIT SEVEN", '7'),
    ("DIGIT EIGHT", '8'), ("DIGIT NINE", '9'), ("COLON", ':'), ("SEMICOLON", ';'),
    ("LESS-THAN SIGN", '<'), ("EQUALS SIGN", '='), ("GREATER-THAN SIGN", '>'),
    ("QUESTION MARK", '?'), ("COMMERCIAL AT", '@'), ("LEFT SQUARE BRACKET", '['),
    ("REVERSE SOLIDUS", '\\'), ("RIGHT SQUARE BRACKET", ']'), ("CIRCUMFLEX ACCENT", '^'),
    ("LOW LINE", '_'), ("GRAVE ACCENT", '\x60'), ("LEFT CURLY BRACKET", '{'),
    ("VERTICAL LINE", '|'), ("RIGHT CURLY BRACKET", '}'), ("TILDE", '~')]

/-- The names of the letters of ASCII, in one case. -/
def letters (kind : String) (first : Char) : List (String × Char) :=
  (List.range 26).map fun n =>
    ("LATIN " ++ kind ++ " LETTER " ++ String.ofList [Char.ofNat (65 + n)],
      Char.ofNat (first.toNat + n))

/-- The printable characters of ASCII, whose names are looked up without regard to case. -/
def ascii : CharacterNames := fun name =>
  (signs ++ letters "CAPITAL" 'A' ++ letters "SMALL" 'a').lookup
    (String.ofList (name.toList.map Char.toUpper))

end CharacterNames

end Chronicle.Text
