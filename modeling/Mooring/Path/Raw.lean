import Mooring.Path
import Mooring.Text.Utf8

/-! Paths as the system keeps them: bytes, which need not be text. Slashes and dots are the same bytes
in every path, so a path is read byte for byte like one of text. -/

namespace Mooring

abbrev RawPath := Bytes

namespace RawPath

def spelled (path : RawPath) : String := String.ofList (path.map Char.ofUInt8)

def ofSpelled (text : String) : RawPath := text.toList.map Char.toUInt8

def withoutExtension (path : RawPath) : RawPath := ofSpelled (Path.withoutExtension path.spelled)

/-- The path as text. It leads elsewhere if the path is no text. -/
def shown (path : RawPath) : String := String.ofList (Utf8.lossy path)

end RawPath
end Mooring
