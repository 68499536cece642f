namespace Acrostic.Report

-- The ways in which a text on a terminal can stand out
inductive Style where
  | green
  | boldGreen
  | yellow
  | cyan
  | red
deriving DecidableEq

namespace Style

def reset : String := "\x1b[0m"

def code : Style → String
  | green => "32"
  | boldGreen => "1;32"
  | yellow => "33"
  | cyan => "36"
  | red => "31"

def opening (style : Style) : String :=
  "\x1b[" ++ style.code ++ "m"

-- Styles that end within the text give way to this one again.
def paint (colored : Bool) (style : Style) (text : String) : String :=
  if colored then style.opening ++ text.replace reset (reset ++ style.opening) ++ reset
  else text

end Style

end Acrostic.Report
