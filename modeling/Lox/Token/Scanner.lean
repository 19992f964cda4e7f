import Lox.Token.Scan

/-!
# Scanners

A scanner holds a text together with the tokens of its last scan, and stands where that scan
stopped. Its tokens can be taken again without a scan, and its text can be replaced; the tokens it
holds are then still those of the last scan.

## Main definitions

* `Scanner`: the state of a scanner
* `Scanner.scan`: scan the text anew
* `Scanner.tokens`: the tokens it holds, or those of a scan if it holds none
-/

namespace Lox

/-- A text with the tokens of its last scan and the position that scan stopped at. -/
structure Scanner where
  source : String
  file : Option String
  held : List Token
  position : Location

namespace Scanner

/-- A scanner that has not scanned yet. -/
def ofText (source : String) (file : Option String) : Scanner where
  source := source
  file := file
  held := []
  position := Location.start file

/-- Scan the text from its start. The scanner keeps the tokens before an error. -/
def scan (scanner : Scanner) : Except ScanError (List Token) × Scanner :=
  let result := scanText scanner.source scanner.file
  (match result.error? with
    | none => .ok result.tokens
    | some error => .error error,
    { scanner with held := result.tokens, position := result.stop.position })

/-- The tokens the scanner holds; a scanner without tokens scans its text. -/
def tokens (scanner : Scanner) : Except ScanError (List Token) × Scanner :=
  if scanner.held.isEmpty then scanner.scan else (.ok scanner.held, scanner)

/-- Another text, not yet scanned. -/
def setSource (scanner : Scanner) (source : String) : Scanner :=
  { scanner with source := source }

end Scanner

end Lox
