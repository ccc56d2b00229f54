import ChatLog.Number.Numeral
import ChatLog.Text.Parts

/-!
Where a log is kept. A text names a path, or it is an address that opens with `file:` and has a path
and options. Text is seen as the octets of its UTF-8 form, each as the character of that code. In an
address, an octet may be written as a percent sign and two hexadecimal digits; a number sign ends
it, and an octet zero ends the part it stands in.
-/
namespace ChatLog

inductive Access where
  | memory
  | readOnly
  /-- A log that has to be there. -/
  | present
  | create
deriving DecidableEq, Repr

structure Address where
  path : List Char
  access : Access
deriving DecidableEq, Repr

namespace Address

def octets (text : String) : List Char :=
  text.toUTF8.toList.map fun octet => Char.ofNat octet.toNat

def decode : List Char → List Char
  | '%' :: a :: b :: rest =>
    match Numeral.based? 16 [a, b] with
    | some 0 => []
    | some code => Char.ofNat code :: decode rest
    | none => '%' :: decode (a :: b :: rest)
  | c :: rest => c :: decode rest
  | [] => []

/-- The options of an address; one without a name does not count. -/
def options (query : List Char) : List (String × String) :=
  (Text.parts '&' query).filterMap fun option =>
    let (name, value) := (Text.cut? '=' option).getD (option, [])
    let name := decode name
    if name = [] then none else some (String.ofList name, String.ofList (decode value))

def demand : Access → Nat
  | .memory => 0
  | .readOnly => 1
  | .present => 2
  | .create => 6

def grant : Access → Nat
  | .memory => 128
  | access => demand access

def accessOf? : String → Option Access
  | "ro" => some .readOnly
  | "rw" => some .present
  | "rwc" => some .create
  | "memory" => some .memory
  | _ => none

def choose (access : Access) : String × String → Option Access
  | ("cache", value) => if value = "shared" ∨ value = "private" then some access else none
  | ("mode", value) => (accessOf? value).filter fun chosen => demand chosen ≤ grant access
  | _ => some access

def isYes (value : String) : Bool :=
  let digits := value.toList.takeWhile Char.isDigit
  match Numeral.natural? digits with
  | some n => n < 0x80000000 && n % 256 ≠ 0
  | none => ["on", "yes", "true"].contains value.toLower

/-- A log without a path, or at the path that stands for memory, lasts no longer than the
program. -/
def isPassing (address : Address) : Bool :=
  address.access = .memory || address.path = [] || address.path = ":memory:".toList

def keepings : List String := ["unix", "unix-none", "unix-dotfile", "unix-excl"]

/-- The address of a path and options. Of several ways to keep the log the last one counts, and one
of them is in memory. A file that is said to be immutable is only read. -/
def withOptions (path : List Char) (options : List (String × String)) : Option Address := do
  let written : Address := ⟨path, ← options.foldlM choose .create⟩
  let isImmutable := !written.isPassing && (options.lookup "immutable").any isYes
  let address := if isImmutable then { written with access := .readOnly } else written
  let keeping := (options.reverse.lookup "vfs").getD "unix"
  if keeping = "memdb" then return { address with path := [] }
  else if keeping ∈ keepings then return address
  else none

def withoutAuthority : List Char → Option (List Char)
  | '/' :: '/' :: rest =>
    let authority := rest.takeWhile (· ≠ '/')
    if authority = [] ∨ authority = "localhost".toList then some (rest.dropWhile (· ≠ '/'))
    else none
  | text => some text

def read? (text : String) : Option Address :=
  let written := octets text
  if '\x00' ∈ written then none
  else match Text.after? "file:".toList written with
    | none => some ⟨written, .create⟩
    | some rest => do
      let behind := (← withoutAuthority rest).takeWhile (· ≠ '#')
      let (path, query) := (Text.cut? '?' behind).getD (behind, [])
      withOptions (decode path) (options query)

end Address

end ChatLog
