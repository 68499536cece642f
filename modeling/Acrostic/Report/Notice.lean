import Acrostic.Report.Summary

namespace Acrostic.Report

-- What a run tells its user
inductive Notice where
  | banner
  | header (text : String)
  | info (text : String)
  | success (text : String)
  | warning (text : String)
  | bullet (text : String)
  | plain (text : String)
  | summary (statistics : Statistics)

def bannerText : String := "\n".intercalate [
  "",
  "╔══════════════════════════════════════════════════════════════╗",
  "║    ____ __        __  ____        _                          ║",
  "║   |  _ \\\\ \\      / / |  _ \\ _   _| | ___  ___               ║",
  "║   | |_) |\\ \\ /\\ / /  | |_) | | | | |/ _ \\/ __|              ║",
  "║   |  __/  \\ V  V /   |  _ <| |_| | |  __/\\__ \\              ║",
  "║   |_|      \\_/\\_/    |_| \\_\\\\__,_|_|\\___||___/              ║",
  "║                                                              ║",
  "║          Password Generation Rules For Text Corpora          ║",
  "║                                                   v0.1.0     ║",
  "╚══════════════════════════════════════════════════════════════╝",
  ""]

-- The notice as it is printed after a run of so long
def Notice.render (colored : Bool) (elapsed : Duration) : Notice → String
  | banner => line (Style.green.paint colored bannerText)
  | header text =>
    line ("\n" ++ Style.green.paint colored "▶" ++ " " ++ Style.boldGreen.paint colored text)
  | info text => marked (Style.cyan.paint colored "ℹ") text
  | success text =>
    marked (Style.green.paint colored "✔") (Style.green.paint colored text)
  | warning text =>
    marked (Style.yellow.paint colored "⚠") (Style.yellow.paint colored text)
  | bullet text => marked (Style.green.paint colored "•") text
  | plain text => line text
  | summary statistics => summaryText colored elapsed statistics

-- What went wrong
def errorText (colored : Bool) (text : String) : String :=
  marked (Style.red.paint colored "✖") (Style.red.paint colored text)

end Acrostic.Report
