import BacklogTrace.Dialect.Language
import BacklogTrace.Marker
import BacklogTrace.Scan.State
import BacklogTrace.Text.Utf8

/-!
Contract: the ways to give a file to a scan.

A file is given as lines, as text, or as a stream of bytes. A stream is read
line by line, each line with its line feed, and each line is decoded on its own;
since a line feed ends every character, that is the decoding of the whole. A
stream may break off: then what was read is lost, and the scan fails.

Owns: `Scanner.ofLanguage`, `Scanner.scan`, `Scanner.scanText`,
`Scanner.scanStream`.

Does not own: files (`FileSystem`), which files are scanned (`Harvest`).
-/

namespace BacklogTrace

/-- Bytes that come one after the other, and then end or break off. -/
structure ByteStream where
  bytes : Bytes
  breaks : Bool
deriving DecidableEq, Repr

inductive StreamFault where
  | scan (fault : ScanFault)
  /-- The stream broke off while a line was read. -/
  | unreadableLine (fileUrl : Text)
deriving DecidableEq, Repr

def StreamFault.message : StreamFault → Text
  | .scan .splitCharacter => "A method name begins inside a character".toList
  | .unreadableLine fileUrl => "Failed to read a line of ".toList ++ fileUrl

namespace Scanner

def ofLanguage (language : Language) (fileUrl : Text) : Scanner :=
  ⟨language.dialect, Marker.extract, fileUrl⟩

/-- The records of a file that is given as lines. What still waits at the end is
dropped. -/
def scan (scanner : Scanner) (lines : List Text) : Except ScanFault (List Record) :=
  match scanner.feedAll .start lines with
  | .error fault => .error fault
  | .ok state => .ok state.records

def scanText (scanner : Scanner) (content : Text) : Except ScanFault (List Record) :=
  scanner.scan (Text.lines content)

/-- The lines that can be read from a stream before it ends or breaks off: a
line that breaks off is none. -/
def readableLines (stream : ByteStream) : List Bytes :=
  if stream.breaks then
    (Utf8.byteLines stream.bytes).filter fun line => line.getLast? == some 0x0a
  else
    Utf8.byteLines stream.bytes

def scanStream (scanner : Scanner) (stream : ByteStream) :
    Except StreamFault (List Record) :=
  match scanner.scan ((readableLines stream).map Utf8.decode) with
  | .error fault => .error (.scan fault)
  | .ok records =>
      if stream.breaks then .error (.unreadableLine scanner.fileUrl) else .ok records

end Scanner

end BacklogTrace
