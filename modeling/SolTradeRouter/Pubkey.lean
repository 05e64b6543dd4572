import Mathlib.Data.List.Basic
import SolTradeRouter.Bytes

/-!
# Public keys, instructions and derived addresses

The vocabulary both crates share: 32-byte keys, account metas and
instructions. The on-chain crate calls the key type `Address`, the SDK
calls it `Pubkey`; they are one type here.

Program-derived addresses come from a hash that is not part of the
repository. `Pda` takes the three derivation functions as parameters, and
nothing is assumed about them except where a statement says so
(`Pda.Lawful`).
-/

/-- **A public key**: thirty-two bytes. -/
@[ext] structure Pubkey where
  bytes : List UInt8
  size : bytes.length = 32
  deriving DecidableEq

/-- The on-chain crate's name for a key. -/
abbrev Address := Pubkey

namespace Pubkey

/-- `Pubkey::default()`: the all-zero key. -/
protected def default : Pubkey := ⟨List.replicate 32 0, List.length_replicate⟩

instance : Inhabited Pubkey := ⟨Pubkey.default⟩

/-- A key has thirty-two bytes. -/
@[simp] theorem length_bytes (k : Pubkey) : k.bytes.length = 32 := k.size

/-- A key from its bytes, which are counted. -/
def ofBytes (bytes : List UInt8) (h : (bytes.length == 32) = true) : Pubkey :=
  ⟨bytes, beq_iff_eq.mp h⟩

/-- The key with the given bytes, when there are thirty-two of them. -/
def ofBytes? (bytes : List UInt8) : Option Pubkey :=
  if h : bytes.length = 32 then some ⟨bytes, h⟩ else none

/-- Thirty-two bytes are the key they are read as. -/
theorem ofBytes?_eq_some {bytes : List UInt8} {k : Pubkey} :
    ofBytes? bytes = some k ↔ bytes = k.bytes := by
  unfold ofBytes?
  split
  · rw [Option.some.injEq, Pubkey.ext_iff]
  · rename_i h
    refine iff_of_false (by simp) (fun hb => h ?_)
    rw [hb, k.size]

/-- The digits of base 58, in order. -/
def base58Alphabet : List Char :=
  "123456789ABCDEFGHJKLMNPQRSTUVWXYZabcdefghijkmnopqrstuvwxyz".toList

/-- The base-58 digits of a number, most significant first. The first
argument bounds their number. -/
def base58Digits : ℕ → ℕ → List Char → List Char
  | 0, _, acc => acc
  | fuel + 1, n, acc =>
    if n = 0 then acc
    else base58Digits fuel (n / 58) (base58Alphabet.getD (n % 58) '1' :: acc)

/-- The base-58 text of a key, as `Display` prints it. Forty-four digits
hold thirty-two bytes, and each leading zero byte is a `1`. -/
def toBase58 (k : Pubkey) : String :=
  String.ofList ((k.bytes.takeWhile (· == 0)).map (fun _ => '1')
    ++ base58Digits 44 (k.bytes.foldl (fun n b => 256 * n + b.toNat) 0) [])

instance : ToString Pubkey := ⟨toBase58⟩

end Pubkey

/-- The bytes of an ASCII text. -/
def ascii (s : String) : List UInt8 := s.toList.map (fun c => UInt8.ofNat c.toNat)

/-- An account of an instruction, with the privileges it is passed. -/
structure AccountMeta where
  pubkey : Pubkey
  isSigner : Bool
  isWritable : Bool
  deriving DecidableEq

namespace AccountMeta

/-- A writable account. -/
def new (pubkey : Pubkey) (isSigner : Bool) : AccountMeta :=
  ⟨pubkey, isSigner, true⟩

/-- A read-only account. -/
def newReadonly (pubkey : Pubkey) (isSigner : Bool) : AccountMeta :=
  ⟨pubkey, isSigner, false⟩

@[simp] theorem new_pubkey (k : Pubkey) (s : Bool) : (new k s).pubkey = k := rfl
@[simp] theorem new_isSigner (k : Pubkey) (s : Bool) : (new k s).isSigner = s := rfl
@[simp] theorem new_isWritable (k : Pubkey) (s : Bool) : (new k s).isWritable = true := rfl
@[simp] theorem newReadonly_pubkey (k : Pubkey) (s : Bool) :
    (newReadonly k s).pubkey = k := rfl
@[simp] theorem newReadonly_isSigner (k : Pubkey) (s : Bool) :
    (newReadonly k s).isSigner = s := rfl
@[simp] theorem newReadonly_isWritable (k : Pubkey) (s : Bool) :
    (newReadonly k s).isWritable = false := rfl

end AccountMeta

/-- An instruction of a transaction. -/
structure Instruction where
  programId : Pubkey
  accounts : List AccountMeta
  data : List UInt8
  deriving DecidableEq

/-- **Derivation of program addresses.** `find` is the value
`find_program_address` returns (it panics when no bump yields an address
off the curve), `tryFind` is `try_find_program_address`, and `create` is
`create_program_address`, whose failure is `none`. -/
class Pda where
  find : List (List UInt8) → Pubkey → Pubkey × UInt8
  tryFind : List (List UInt8) → Pubkey → Option (Pubkey × UInt8)
  create : List (List UInt8) → Pubkey → Option Pubkey

/-- **The documented behaviour of the derivation**: the bump that `find`
returns recreates its address, and it is the only bump that does. -/
structure Pda.Lawful [Pda] : Prop where
  create_iff : ∀ (seeds : List (List UInt8)) (program : Pubkey) (bump : UInt8),
    Pda.create (seeds ++ [[bump]]) program = some (Pda.find seeds program).1
      ↔ bump = (Pda.find seeds program).2

/-! ## Keys for runs on fixed accounts -/

/-- A key that repeats one byte. -/
def sampleKey (n : UInt8) : Pubkey := ⟨List.replicate 32 n, List.length_replicate⟩

/-- A derivation under which `sampleKey 2` is the canonical address of
every list of seeds, with bump 255. -/
@[reducible] def samplePda : Pda where
  find _ _ := (sampleKey 2, 255)
  tryFind _ _ := some (sampleKey 2, 255)
  create seeds _ := if seeds.getLast? = some [255] then some (sampleKey 2) else none
