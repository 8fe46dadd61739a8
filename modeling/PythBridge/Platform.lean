import Mathlib.Data.List.Nodup
import PythBridge.HkCursor
import PythBridge.Traits

/-!
# What the contracts are deployed on

Everything a deployment fixes and the repository does not contain: the two third-party contracts,
the hash and the signature recovery of the VM, the network and the deployer.

All of it is a parameter of the model, so every theorem holds whatever these functions do. Where a
result needs something of them, it says so as a hypothesis: `hkCursor.Lawful` for the reader,
`ChecksProofs` for the Merkle contract, a lawful signer for the recovery of keys. Of the hash
nothing is ever assumed but the length of what it returns.

`Platform.reference` is one choice of all of them, simple enough to be computed, for the closed runs
that show a hypothesis to be met or a claim to fail.
-/

namespace PythBridge

open Clarity

/-- A deployment: the code that is not in the repository, and the choices of whoever deploys it. -/
structure Platform where
  hkCursor : HkCursorV2
  /-- `check-proof` of `hk-merkle-tree-keccak160-v1`: root hash, leaf and proof. -/
  checkProof : (rootHash leaf : Buff) → (proof : List Buff) → Bool
  keccak256 : Buff → Buff
  /-- `secp256k1-recover?`: message hash and signature. -/
  secp256k1Recover : (messageHash signature : Buff) → Response Buff
  isInMainnet : Bool
  deployer : StandardPrincipal

namespace Platform

variable (pf : Platform)

/-- The principals of the repository's contracts, which one account has deployed. A contract that is
called through a trait argument is recognized by comparing with these. -/
def wormholeCoreV2 : Principal := .contract pf.deployer (asciiBytes "wormhole-core-v2")

def pythGovernanceV1 : Principal := .contract pf.deployer (asciiBytes "pyth-governance-v1")

def pythPnauDecoderV1 : Principal := .contract pf.deployer (asciiBytes "pyth-pnau-decoder-v1")

def pythStoreV1 : Principal := .contract pf.deployer (asciiBytes "pyth-store-v1")

def pythOracleV2 : Principal := .contract pf.deployer (asciiBytes "pyth-oracle-v2")

/-- The five contracts of the bridge. -/
def contracts : List Principal :=
  [pf.wormholeCoreV2, pf.pythGovernanceV1, pf.pythPnauDecoderV1, pf.pythStoreV1, pf.pythOracleV2]

/-- The execution plan that `pyth-governance-v1` is deployed with. -/
def deployedPlan : ExecutionPlan where
  pythOracleContract := pf.pythOracleV2
  pythDecoderContract := pf.pythPnauDecoderV1
  pythStorageContract := pf.pythStoreV1
  wormholeCoreContract := pf.wormholeCoreV2

/-- They are different contracts: their names differ. -/
theorem contracts_nodup : pf.contracts.Nodup := by
  -- one account has deployed them all, so comparing the names is enough
  have hinj : Function.Injective (Principal.contract pf.deployer) := fun _ _ h => by
    injection h
  have hnames : [asciiBytes "wormhole-core-v2", asciiBytes "pyth-governance-v1",
      asciiBytes "pyth-pnau-decoder-v1", asciiBytes "pyth-store-v1",
      asciiBytes "pyth-oracle-v2"].Nodup := by decide
  exact List.Nodup.map hinj hnames

/-- A platform with stand-ins for what is not in the repository, for closed runs: the hash is
the first 32 bytes, a signature is the signer's compressed key and the hash it signs, and a
proof is empty for a leaf whose hash starts with the root. -/
def reference : Platform where
  hkCursor := .reference
  checkProof rootHash leaf proof :=
    proof = [] ∧ rootHash = (leaf ++ List.replicate 20 0).take 20
  keccak256 bytes := (bytes ++ List.replicate 32 0).take 32
  secp256k1Recover messageHash signature :=
    if signature.drop 33 = messageHash then .ok (signature.take 33) else .error 1
  isInMainnet := false
  deployer := ⟨26, List.replicate 20 1⟩

/-- The stand-in reader follows the rules. -/
theorem reference_lawful : reference.hkCursor.Lawful := HkCursorV2.reference_lawful

end Platform

end PythBridge
