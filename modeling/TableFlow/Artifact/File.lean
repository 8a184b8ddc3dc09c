import TableFlow.Text.Utf8

namespace TableFlow

structure File where
  name : String
  content : List UInt8
deriving DecidableEq

namespace File

-- The part of a name behind the last full stop, with the letters from A to Z made small.
def extension (f : File) : String :=
  let name := f.name.toList
  if '.' ∈ name then
    String.ofList ((name.reverse.takeWhile (· != '.')).reverse.map Char.toLower)
  else ""

-- The media type that goes with the extension.
def mediaType (f : File) : String :=
  match f.extension with
  | "csv" => "text/csv"
  | "txt" => "text/plain"
  | "json" => "application/json"
  | "zip" => "application/zip"
  | _ => "application/octet-stream"

def text (f : File) : String := String.ofList (Text.Utf8.decode f.content)

end File

end TableFlow
