import HostTopology.Text.Ranges
import HostTopology.Text.WordTable

/-!
# Word — the characters of a word

`isWord` holds of letters, digits and numbers of every script and of the underscore.
-/

namespace HostTopology
namespace Text

def isWord (c : Char) : Bool :=
  if c.toNat < 0x80 then c.isAlphanum || c = '_' else inRanges wordRanges c.toNat

end Text
end HostTopology
