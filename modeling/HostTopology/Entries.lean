/-!
# Entries — values under keys

A list of entries in which every key has one value. Keys stand in the order in which they came.

* `Entries.put` — a value under a key, whatever was there;
* `Entries.change` — another value in the place of the one that is there.
-/

namespace HostTopology
namespace Entries

variable {κ α : Type} [DecidableEq κ]

/-- Puts a value under a key: in the place of an earlier value of that key, or at the end. -/
def put (entries : List (κ × α)) (key : κ) (value : α) : List (κ × α) :=
  match entries with
  | [] => [(key, value)]
  | e :: entries => if e.1 = key then (key, value) :: entries else e :: put entries key value

/-- Changes the value of a key. -/
def change (entries : List (κ × α)) (key : κ) (f : α → α) : List (κ × α) :=
  entries.map fun e => if e.1 = key then (e.1, f e.2) else e

end Entries
end HostTopology
