import BacklogTrace.Text.Basic

/-!
Contract: parts of a text that stand out on a terminal.

With colour on, a part is wrapped in the sequence that begins its style and the
one that ends it; with colour off it is written as it is.

Owns: `Style`, `Style.wrap`.

Does not own: which parts have which style (`Report`, `Run`).
-/

namespace BacklogTrace

inductive Style where
  | bold
  | dimmed
  | green
  | yellow
  | blue
  | cyan
deriving DecidableEq, Repr

namespace Style

/-- A control sequence with a parameter. -/
def sequence (parameter : Text) : Text :=
  '\x1b' :: '[' :: (parameter ++ ['m'])

def beginning : Style → Text
  | .bold => "1".toList
  | .dimmed => "2".toList
  | .green => "32".toList
  | .yellow => "33".toList
  | .blue => "34".toList
  | .cyan => "36".toList

def ending : Style → Text
  | .bold | .dimmed => "0".toList
  | .green | .yellow | .blue | .cyan => "39".toList

def wrap (style : Style) (coloured : Bool) (part : Text) : Text :=
  if coloured then
    sequence style.beginning ++ part ++ sequence style.ending
  else
    part

end Style

end BacklogTrace
