import PythBridge.Clarity.Buff

/-!
# Clarity — principals

Standard principals (accounts) and contract principals, with the part of the consensus
serialization that `from-consensus-buff? principal` reads.

A principal arrives in a governance message as bytes, so what the virtual machine accepts there
decides which contracts an update can install. Contract names are checked as the machine checks
them: a letter, then letters, digits, hyphens and underscores, at most 128 bytes in all.
-/

namespace PythBridge.Clarity

/-- An account: address version and public key hash. -/
structure StandardPrincipal where
  version : UInt8
  hashBytes : Buff
deriving DecidableEq, Repr

/-- A principal. Contract names are kept as their ASCII bytes. -/
inductive Principal where
  | standard (account : StandardPrincipal)
  | contract (issuer : StandardPrincipal) (name : Buff)
deriving DecidableEq, Repr

/-- The principal of a contract, and not of an account. -/
def Principal.IsContract (p : Principal) : Prop := ∃ issuer name, p = .contract issuer name

instance (p : Principal) : Decidable p.IsContract :=
  match p with
  | .standard _ => .isFalse nofun
  | .contract issuer name => .isTrue ⟨issuer, name, rfl⟩

/-- The bytes of a contract name that is written in the source. -/
def asciiBytes (name : String) : Buff := name.toList.map fun c => UInt8.ofNat c.toNat

/-- An ASCII letter. -/
def isNameLetter (b : UInt8) : Bool :=
  (0x41 ≤ b && b ≤ 0x5a) || (0x61 ≤ b && b ≤ 0x7a)

/-- A letter, a digit, a hyphen or an underscore. -/
def isNameByte (b : UInt8) : Bool :=
  isNameLetter b || (0x30 ≤ b && b ≤ 0x39) || b == 0x2d || b == 0x5f

/-- Contract names start with a letter and have 1 to 128 bytes; `__transient` is the one
name outside this form. A contract can only be published under a name of at most 40 bytes, but a
principal with a longer one is a value of the language all the same. -/
def isContractName (name : Buff) : Bool :=
  (name.head?.any isNameLetter && name.all isNameByte && name.length ≤ 128)
    || name == asciiBytes "__transient"

/-- `from-consensus-buff? principal`: type prefix `0x05` or `0x06`, version, 20 bytes of
hash and, for a contract, its length-prefixed name. The whole buffer must be consumed. -/
def fromConsensusBuff? (buff : Buff) : Option Principal :=
  match buff with
  | 0x05 :: version :: hashBytes =>
    if hashBytes.length = 20 then some (.standard ⟨version, hashBytes⟩) else none
  | 0x06 :: version :: rest =>
    match rest.drop 20 with
    | length :: name =>
      if name.length = length.toNat ∧ isContractName name then
        some (.contract ⟨version, rest.take 20⟩ name)
      else none
    | [] => none
  | _ => none

/-- The type prefix tells contracts from accounts. -/
theorem isContract_iff_of_fromConsensusBuff? {buff : Buff} {p : Principal}
    (h : fromConsensusBuff? buff = some p) : p.IsContract ↔ buff.head? = some 0x06 := by
  unfold fromConsensusBuff? at h
  -- one case for each prefix; the two that give a principal give one of the kind of the prefix
  split at h
  · split at h
    · cases h
      simp [Principal.IsContract]
    · cases h
  · split at h
    · split at h
      · cases h
        simp [Principal.IsContract]
      · cases h
    · cases h
  · cases h

/-! ## Serialization

The other direction, for round trips: the bytes that a publisher writes for a principal. -/

/-- The consensus serialization of a principal. -/
def toConsensusBuff : Principal → Buff
  | .standard account => [0x05, account.version] ++ account.hashBytes
  | .contract issuer name =>
    [0x06, issuer.version] ++ issuer.hashBytes ++ [UInt8.ofNat name.length] ++ name

/-- A hash of 20 bytes and a valid contract name. -/
def Principal.WellFormed : Principal → Prop
  | .standard account => account.hashBytes.length = 20
  | .contract issuer name => issuer.hashBytes.length = 20 ∧ isContractName name = true

/-- A contract name is short enough for its length byte. -/
theorem isContractName_length {name : Buff} (h : isContractName name = true) :
    name.length ≤ 128 := by
  simp only [isContractName, Bool.or_eq_true, Bool.and_eq_true, decide_eq_true_eq,
    beq_iff_eq] at h
  rcases h with ⟨-, hlength⟩ | rfl
  · exact hlength
  · decide

/-- A serialized principal is shorter than 256 bytes, so its length fits a byte. -/
theorem Principal.WellFormed.length_lt {p : Principal} (h : p.WellFormed) :
    (toConsensusBuff p).length < 256 := by
  cases p with
  | standard account =>
    simp only [Principal.WellFormed] at h
    simp [toConsensusBuff, h]
  | contract issuer name =>
    obtain ⟨hhash, hname⟩ := h
    have := isContractName_length hname
    simp only [toConsensusBuff, List.length_append, List.length_cons, List.length_nil, hhash]
    omega

/-- `from-consensus-buff?` inverts the serialization. -/
theorem fromConsensusBuff?_toConsensusBuff {p : Principal} (h : p.WellFormed) :
    fromConsensusBuff? (toConsensusBuff p) = some p := by
  cases p with
  | standard account => exact if_pos h
  | contract issuer name =>
    obtain ⟨hhash, hname⟩ := h
    have hlength := isContractName_length hname
    -- the length byte does not wrap around, and the name starts behind the 20 bytes of the hash
    have hsize : (UInt8.ofNat name.length).toNat = name.length := by
      rw [UInt8.toNat_ofNat']
      omega
    have hrest : issuer.hashBytes ++ [UInt8.ofNat name.length] ++ name =
        issuer.hashBytes ++ UInt8.ofNat name.length :: name := by
      rw [List.append_assoc, List.singleton_append]
    simp only [toConsensusBuff, List.cons_append, List.nil_append, hrest, fromConsensusBuff?,
      List.drop_left' hhash, List.take_left' hhash, hsize, hname, and_self, if_true]

end PythBridge.Clarity
