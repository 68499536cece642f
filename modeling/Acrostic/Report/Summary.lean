import Acrostic.Report.Duration
import Acrostic.Report.Size
import Acrostic.Report.Statistics
import Acrostic.Report.Style

namespace Acrostic.Report

-- A text on a line of its own
def line (text : String) : String :=
  text ++ "\n"

-- A text behind a sign
def marked (sign text : String) : String :=
  line ("  " ++ sign ++ " " ++ text)

def countText (count : UInt64) : String :=
  String.ofList (grouped count.toNat)

def bytesText (bytes : UInt64) : String :=
  String.ofList (sizeText bytes.toNat)

-- Lines per second, zero while no time has passed
def throughput (lines : UInt64) (elapsed : Duration) : Rat :=
  if 0 < elapsed.measure then toPrecision (toPrecision lines.toNat / elapsed.measure) else 0

def padEnd (width : Nat) (text : List Char) : List Char :=
  text ++ List.replicate (width - text.length) ' '

-- The counters at the end of a run
def summaryText (colored : Bool) (elapsed : Duration) (statistics : Statistics) : String :=
  let green := Style.green.paint colored
  let bold := Style.boldGreen.paint colored
  let rule := line (green (String.ofList (List.replicate 60 '═')))
  let dropped :=
    if statistics.dropped = 0 then ""
    else marked (Style.yellow.paint colored "Out of range:   ") (countText statistics.dropped)
  let lossy :=
    if statistics.lossy = 0 then ""
    else marked (Style.red.paint colored "Lossy decoded:  ")
      (Style.red.paint colored (countText statistics.lossy))
  let partitions :=
    if statistics.partitions.isEmpty then ""
    else line "" ++ String.join (statistics.partitions.map fun (name, count) =>
      marked (green "•") (String.ofList (padEnd 16 name) ++ " " ++ countText count))
  line "" ++ rule ++ line (bold "                    PROCESSING COMPLETE") ++ rule ++ line "" ++
    marked (green "Files processed:")
      (toString statistics.filesDone ++ "/" ++ toString statistics.files) ++
    marked (green "Data processed: ")
      (bytesText statistics.bytesDone ++ " / " ++ bytesText statistics.bytes) ++
    line "" ++
    marked (green "Phrases:        ") (countText statistics.lines) ++
    marked (bold "Passwords:      ") (bold (countText statistics.written)) ++
    dropped ++ lossy ++ partitions ++ line "" ++
    marked (green "Duration:       ") (String.ofList elapsed.text) ++
    marked (green "Throughput:     ")
      (String.ofList (fixed 2 (throughput statistics.lines elapsed)) ++ " lines/sec") ++
    line "" ++ rule

end Acrostic.Report
