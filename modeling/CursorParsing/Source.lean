import CursorParsing.Value.Display
import CursorParsing.Value.Equality

/-!
# Sources

A source is a sequence of symbols of one kind, held so that any symbol is found at once. Its view is
`symbols`, the list of its symbols as values; the operations are pinned down by what they do to the
view.
-/

namespace CursorParsing

inductive Source where
  | text (characters : Array Char)
  | bytes (octets : Array UInt8)
  | buffer (octets : Array UInt8)
  | list (items : Array Value)
  | tuple (items : Array Value)

namespace Source

/-- The sequence that a value is; none for a value that is no sequence. -/
def ofValue? : Value → Option Source
  | .text characters => some (.text characters.toArray)
  | .bytes octets => some (.bytes octets.toArray)
  | .buffer octets => some (.buffer octets.toArray)
  | .list items => some (.list items.toArray)
  | .tuple items => some (.tuple items.toArray)
  | _ => none

def toValue : Source → Value
  | .text characters => .text characters.toList
  | .bytes octets => .bytes octets.toList
  | .buffer octets => .buffer octets.toList
  | .list items => .list items.toList
  | .tuple items => .tuple items.toList

def size : Source → Nat
  | .text characters => characters.size
  | .bytes octets | .buffer octets => octets.size
  | .list items | .tuple items => items.size

def symbols : Source → List Value
  | .text characters => characters.toList.map .ofChar
  | .bytes octets | .buffer octets => octets.toList.map .ofOctet
  | .list items | .tuple items => items.toList

def symbol? (source : Source) (index : Nat) : Option Value :=
  match source with
  | .text characters => characters[index]?.map .ofChar
  | .bytes octets | .buffer octets => octets[index]?.map .ofOctet
  | .list items | .tuple items => items[index]?

/-- Whether all symbols can be written. -/
def isWritable (source : Source) : Bool := source.symbols.all Value.isWritable

/-- The symbols from one position up to another, as a sequence of the same kind. -/
def slice (source : Source) (first last : Nat) : Source :=
  match source with
  | .text characters => .text (characters.extract first last)
  | .bytes octets => .bytes (octets.extract first last)
  | .buffer octets => .buffer (octets.extract first last)
  | .list items => .list (items.extract first last)
  | .tuple items => .tuple (items.extract first last)

@[simp] theorem length_symbols (source : Source) : source.symbols.length = source.size := by
  cases source <;> simp [symbols, size]

theorem symbol?_eq_getElem? (source : Source) (index : Nat) :
    source.symbol? index = source.symbols[index]? := by
  cases source <;> simp [symbols, symbol?]

@[simp] theorem symbols_slice (source : Source) (first last : Nat) :
    (source.slice first last).symbols = (source.symbols.drop first).take (last - first) := by
  cases source <;> simp [symbols, slice, List.map_take, List.map_drop]

@[simp] theorem isWritable_text (characters : Array Char) : (text characters).isWritable = true :=
  List.all_eq_true.mpr (List.forall_mem_map.mpr fun _ _ => Value.isWritable_ofChar _)

@[simp] theorem isWritable_bytes (octets : Array UInt8) : (bytes octets).isWritable = true :=
  List.all_eq_true.mpr (List.forall_mem_map.mpr fun _ _ => Value.isWritable_ofOctet _)

@[simp] theorem isWritable_buffer (octets : Array UInt8) : (buffer octets).isWritable = true :=
  isWritable_bytes octets

theorem isWritable_slice {source : Source} (writable : source.isWritable = true) (first last : Nat) :
    (source.slice first last).isWritable = true := by
  rw [isWritable, symbols_slice, List.all_eq_true]
  intro symbol member
  exact List.all_eq_true.mp writable symbol (List.mem_of_mem_drop (List.mem_of_mem_take member))

end Source

end CursorParsing
