import PythBridge.Clarity.MerkleTree
import PythBridge.Pyth.PnauRoundTrip

/-!
# Publishing price updates

The other side of a PNAU message: a batch of price messages is hashed into a Merkle tree, the root
goes into the payload of the VAA, and every message gets its proof. What the publisher makes of a
batch is what the decoder accepts (`batch_proofs_verify`), and the leaves the decoder accepts for
the root of a batch are messages of the batch (`mem_of_checkProof`).

The publisher is modelled after the helpers of the unit tests, which build whole messages from a
list of prices; no other code of the repository publishes. The verifier is `check-proof`, a contract
that is not part of it, so what it does is a parameter with one property (`ChecksProofs`): it climbs
the proof from the hash of the leaf, hashing pairs in *some* order.

* **`batch_proofs_verify`** — completeness. Here the order has to be the one of the publisher.
* **`mem_of_checkProof`** — soundness, for any order. Nothing is assumed about collisions in
  general: the only ones that matter are between the things hashed for this tree and for this proof
  (`Collides`), and the prefixes `0` and `1` keep leaves and nodes apart.
* **`openMessage`** — the decoder without the check of the source, so that the messages behind a
  price can be spoken of.
-/

namespace PythBridge.PnauDecoder

open Clarity MerkleTree

/-! ## The tree

The functions of the helpers: a leaf is hashed with the prefix `0`, a pair of nodes with the prefix
`1` and the smaller one first. -/

section Publisher

variable (pf : Platform)

/-- The first 20 bytes of the hash. -/
def keccak160 (bytes : Buff) : Buff := (pf.keccak256 bytes).take 20

/-- Two nodes, the smaller one first. -/
def ascending (node1 node2 : Buff) : Buff :=
  if buffToUintBe node2 < buffToUintBe node1 then node2 ++ node1 else node1 ++ node2

/-- The hash of a pair of nodes. -/
def keccak160HashNodes (node1 node2 : Buff) : Buff := keccak160 pf ([1] ++ ascending node1 node2)

/-- The hash of a message. -/
def keccak160HashLeaf (leaf : Buff) : Buff := keccak160 pf ([0] ++ leaf)

/-- `computeMerkleProof` finds its target by reference, which is its position in the batch. -/
def computeMerkleProof (target : Nat) (batch : List Buff) : List Buff :=
  siblings (keccak160HashNodes pf) batch target

/-- The root that `buildAuwvVaaPayload` puts into the payload; an empty batch has none. -/
def merkleRootHash (hashed : List Buff) : Option Buff := rootOf (keccak160HashNodes pf) hashed

/-- The message of a price update. -/
def preserializePriceUpdateToBuffer (priceUpdate : PriceUpdate) : Buff :=
  uintToBuffBe 1 0 ++ priceUpdate.priceIdentifier ++ intToBuffBe 8 priceUpdate.price ++
    uintToBuffBe 8 priceUpdate.conf ++ intToBuffBe 4 priceUpdate.expo ++
    uintToBuffBe 8 priceUpdate.publishTime ++ uintToBuffBe 8 priceUpdate.prevPublishTime ++
    intToBuffBe 8 priceUpdate.emaPrice ++ uintToBuffBe 8 priceUpdate.emaConf

/-- A batch in its four forms: the prices, their messages, the hashes, and the proofs. -/
structure PriceUpdateBatch where
  decoded : List PriceUpdate
  serialized : List Buff
  hashed : List Buff
  proofs : List (List Buff)

/-- A batch from the prices. -/
def buildPriceUpdateBatch (decoded : List PriceUpdate) : PriceUpdateBatch :=
  let serialized := decoded.map preserializePriceUpdateToBuffer
  let hashed := serialized.map (keccak160HashLeaf pf)
  { decoded
    serialized
    hashed
    proofs := (List.range hashed.length).map fun i => computeMerkleProof pf i hashed }

/-- The update of a batch at `i`, as it is submitted with its proof. -/
def submittedOf (decoded : List PriceUpdate) (i : Fin decoded.length) : SubmittedUpdate where
  update := decoded[i]
  extra := []
  proof := (buildPriceUpdateBatch pf decoded).proofs[i.val]?.getD []

end Publisher

/-- What the decoder relies on: the hash has 32 bytes, and `check-proof` hashes the leaf and then
the nodes of the proof, each pair in the order that `order` puts it. -/
structure ChecksProofs (pf : Platform) (order : Buff → Buff → Buff) : Prop where
  keccak256_length : ∀ bytes, (pf.keccak256 bytes).length = 32
  order_eq : ∀ node1 node2,
    order node1 node2 = node1 ++ node2 ∨ order node1 node2 = node2 ++ node1
  checkProof_iff : ∀ rootHash leaf proof, pf.checkProof rootHash leaf proof = true ↔
    climb (fun node1 node2 => keccak160 pf ([1] ++ order node1 node2)) (keccak160HashLeaf pf leaf)
      proof = rootHash

variable {pf : Platform} {order : Buff → Buff → Buff}

/-- The smaller node first is one of the two orders. -/
theorem ascending_eq (node1 node2 : Buff) :
    ascending node1 node2 = node1 ++ node2 ∨ ascending node1 node2 = node2 ++ node1 := by
  unfold ascending
  split
  · exact .inr rfl
  · exact .inl rfl

/-- Nodes of one length are put in one order, whichever comes first. -/
theorem ascending_comm {node1 node2 : Buff} (h : node1.length = node2.length) :
    ascending node1 node2 = ascending node2 node1 := by
  unfold ascending
  -- nodes of one length that are equal as numbers are equal, and otherwise one is smaller
  by_cases heq : buffToUintBe node1 = buffToUintBe node2
  · have hsame : node1 = node2 := by
      rw [← uintToBuffBe_buffToUintBe node1, ← uintToBuffBe_buffToUintBe node2, h, heq]
    rw [hsame]
  · by_cases hlt : buffToUintBe node2 < buffToUintBe node1
    · rw [if_pos hlt, if_neg (by omega)]
    · rw [if_neg hlt, if_pos (by omega)]

namespace ChecksProofs

variable (h : ChecksProofs pf order)

include h

/-- Hashes have 20 bytes. -/
theorem keccak160_length (bytes : Buff) : (keccak160 pf bytes).length = 20 := by
  rw [keccak160, List.length_take, h.keccak256_length]
  rfl

/-- The hash of two nodes has 20 bytes. -/
theorem hashNodes_length : ∀ node1 node2 : Buff, node1.length = 20 → node2.length = 20 →
    (keccak160HashNodes pf node1 node2).length = 20 :=
  fun _ _ _ _ => h.keccak160_length _

/-- The hashes of leaves have 20 bytes, so everything on a level can be compared. -/
theorem hashLeaf_length (messages : List Buff) :
    ∀ hash ∈ messages.map (keccak160HashLeaf pf), hash.length = 20 := by
  rw [List.forall_mem_map]
  exact fun message _ => h.keccak160_length _

end ChecksProofs

/-! ## What is published is accepted

An update of the batch is submitted with the proof at its position. The proof climbs from the hash
of the message to the root, and the record fits its places. -/

section Complete

variable {decoded : List PriceUpdate}

/-- The message of a submitted update is the one that was hashed. -/
theorem messageBytes_submittedOf (i : Fin decoded.length) :
    messageBytes (submittedOf pf decoded i) = preserializePriceUpdateToBuffer decoded[i] := by
  unfold messageBytes preserializePriceUpdateToBuffer submittedOf
  rw [List.append_nil]

theorem proof_submittedOf (i : Fin decoded.length) :
    (submittedOf pf decoded i).proof =
      computeMerkleProof pf i (buildPriceUpdateBatch pf decoded).hashed := by
  have hi : i.val < (buildPriceUpdateBatch pf decoded).hashed.length := by
    show i.val < ((decoded.map preserializePriceUpdateToBuffer).map (keccak160HashLeaf pf)).length
    rw [List.length_map, List.length_map]
    exact i.isLt
  show ((List.range (buildPriceUpdateBatch pf decoded).hashed.length).map fun i =>
    computeMerkleProof pf i (buildPriceUpdateBatch pf decoded).hashed)[i.val]?.getD [] = _
  rw [List.getElem?_map, List.getElem?_range hi]
  rfl

theorem hashed_getElem? (i : Fin decoded.length) :
    (buildPriceUpdateBatch pf decoded).hashed[i.val]? =
      some (keccak160HashLeaf pf (messageBytes (submittedOf pf decoded i))) := by
  show ((decoded.map preserializePriceUpdateToBuffer).map (keccak160HashLeaf pf))[i.val]? = _
  rw [List.getElem?_map, List.getElem?_map, List.getElem?_eq_getElem i.isLt,
    messageBytes_submittedOf]
  rfl

/-- The fields of a price update fit their places. -/
structure Publishable (priceUpdate : PriceUpdate) : Prop where
  priceIdentifier : priceUpdate.priceIdentifier.length = 32
  price : -2 ^ 63 ≤ priceUpdate.price ∧ priceUpdate.price < 2 ^ 63
  conf : priceUpdate.conf < 2 ^ 64
  expo : -2 ^ 31 ≤ priceUpdate.expo ∧ priceUpdate.expo < 2 ^ 31
  publishTime : priceUpdate.publishTime < 2 ^ 64
  prevPublishTime : priceUpdate.prevPublishTime < 2 ^ 64
  emaPrice : -2 ^ 63 ≤ priceUpdate.emaPrice ∧ priceUpdate.emaPrice < 2 ^ 63
  emaConf : priceUpdate.emaConf < 2 ^ 64

/-- An update without extra bytes fits when its fields and its proof do. -/
theorem Publishable.fits {priceUpdate : PriceUpdate} (h : Publishable priceUpdate)
    {proof : List Buff} (hproof : proof.length ≤ 128) (hhashes : ∀ hash ∈ proof, hash.length = 20) :
    (SubmittedUpdate.mk priceUpdate [] proof).Fits :=
  ⟨h.priceIdentifier, h.price, h.conf, h.expo, h.publishTime, h.prevPublishTime, h.emaPrice,
    h.emaConf, show 85 + 0 ≤ 255 by decide, hproof, hhashes⟩

/-- A submitted update fits: its proof has a hash for each level, and a tree over at most `2 ^ 128`
leaves has at most 128 of them above the leaves. -/
theorem ChecksProofs.submittedOf_fits (h : ChecksProofs pf order) {i : Fin decoded.length}
    (hpublishable : Publishable decoded[i]) (hcount : decoded.length ≤ 2 ^ 128) :
    (submittedOf pf decoded i).Fits := by
  have hlength : (buildPriceUpdateBatch pf decoded).hashed.length = decoded.length := by
    show ((decoded.map preserializePriceUpdateToBuffer).map (keccak160HashLeaf pf)).length = _
    rw [List.length_map, List.length_map]
  refine hpublishable.fits ?_ ?_
  · show (submittedOf pf decoded i).proof.length ≤ 128
    rw [proof_submittedOf]
    exact siblings_length_le _ (hlength.symm ▸ hcount)
  · show ∀ hash ∈ (submittedOf pf decoded i).proof, hash.length = 20
    rw [proof_submittedOf]
    exact forall_siblings _ h.hashNodes_length (h.hashLeaf_length _)

/-- The proofs that the publisher computes lead to the root of the batch. -/
theorem ChecksProofs.exists_root (h : ChecksProofs pf ascending) (hbatch : decoded ≠ []) :
    ∃ root, merkleRootHash pf (buildPriceUpdateBatch pf decoded).hashed = some root ∧
      root.length = 20 ∧
      ∀ i, pf.checkProof root (messageBytes (submittedOf pf decoded i))
        (submittedOf pf decoded i).proof = true := by
  have hhashed : (buildPriceUpdateBatch pf decoded).hashed ≠ [] := by
    show (decoded.map preserializePriceUpdateToBuffer).map (keccak160HashLeaf pf) ≠ []
    rw [ne_eq, List.map_eq_nil_iff, List.map_eq_nil_iff]
    exact hbatch
  obtain ⟨root, hroot⟩ := rootOf_isSome (keccak160HashNodes pf) hhashed
  have hlength : root.length = 20 :=
    of_rootOf (P := fun hash => hash.length = 20) _ h.hashNodes_length (h.hashLeaf_length _) hroot
  have hcomm : ∀ node1 node2 : Buff, node1.length = 20 → node2.length = 20 →
      keccak160HashNodes pf node1 node2 = keccak160HashNodes pf node2 node1 := by
    intro node1 node2 h₁ h₂
    rw [keccak160HashNodes, keccak160HashNodes, ascending_comm (h₁.trans h₂.symm)]
  refine ⟨root, hroot, hlength, fun i => ?_⟩
  have hleaf : (buildPriceUpdateBatch pf decoded).hashed[i.1]? =
      some (keccak160HashLeaf pf (messageBytes (submittedOf pf decoded i))) :=
    hashed_getElem? i
  have hclimb := climb_siblings _ h.hashNodes_length hcomm (h.hashLeaf_length _) hleaf
  rw [h.checkProof_iff, proof_submittedOf]
  exact Option.some.inj (hclimb.symm.trans hroot)

/-- **What is published is accepted.** When `check-proof` hashes as the publisher does, and the
fields of the prices fit their places: any at most 64 updates of a batch, in any order and with
repetitions, each with the proof the publisher computes, are parsed and verified against the root of
the batch, and read as they were. -/
theorem batch_proofs_verify (hk : pf.hkCursor.Lawful) (h : ChecksProofs pf ascending)
    (hpublishable : ∀ priceUpdate ∈ decoded, Publishable priceUpdate) (hbatch : decoded ≠ [])
    (hcount : decoded.length ≤ 2 ^ 128) (selected : List (Fin decoded.length))
    (hselected : selected.length ≤ 64) (trailing : Buff) :
    ∃ root updates, merkleRootHash pf (buildPriceUpdateBatch pf decoded).hashed = some root ∧
      root.length = 20 ∧
      parseAndVerifyPricesUpdates pf (updatesBytes (selected.map (submittedOf pf decoded)) trailing)
        root = .ok updates ∧
      updates.map castDecodedPrice = selected.map fun i => decoded[i] := by
  obtain ⟨root, hroot, hlength, hproof⟩ := h.exists_root hbatch
  have hfits : ∀ s ∈ selected.map (submittedOf pf decoded), s.Fits := by
    rw [List.forall_mem_map]
    exact fun i _ => h.submittedOf_fits (hpublishable _ (List.getElem_mem _)) hcount
  have hproofs : ∀ s ∈ selected.map (submittedOf pf decoded),
      pf.checkProof root (messageBytes s) s.proof = true := by
    rw [List.forall_mem_map]
    exact fun i _ => hproof i
  have hparsed := parseAndVerifyPricesUpdates_updatesBytes hk trailing
    (by rwa [List.length_map]) hfits hproofs
  refine ⟨root, _, hroot, hlength, hparsed, ?_⟩
  rw [List.map_map, List.map_map]
  rfl

end Complete

/-! ### A closed batch -/

/-- The reference platform, with proofs checked as they are computed. -/
def merklePlatform : Platform :=
  { Platform.reference with
    checkProof := fun rootHash leaf proof =>
      climb (fun node1 node2 => keccak160 .reference ([1] ++ ascending node1 node2))
        (keccak160HashLeaf .reference leaf) proof = rootHash }

theorem merklePlatform_lawful : merklePlatform.hkCursor.Lawful := Platform.reference_lawful

/-- This platform checks proofs as it was built to. -/
theorem merklePlatform_checksProofs : ChecksProofs merklePlatform ascending where
  keccak256_length bytes := by
    show ((bytes ++ List.replicate 32 0).take 32).length = 32
    rw [List.length_take, List.length_append, List.length_replicate]
    omega
  order_eq := ascending_eq
  checkProof_iff _ _ _ := decide_eq_true_iff

/-- Three feeds. -/
def sampleFeeds : List PriceUpdate :=
  [6, 7, 8].map fun byte => {
    priceIdentifier := List.replicate 32 byte, price := -7, conf := 1, expo := -8, emaPrice := -6,
    emaConf := 2, publishTime := 100, prevPublishTime := 99 }

theorem sampleFeeds_publishable : ∀ priceUpdate ∈ sampleFeeds, Publishable priceUpdate := by
  simp only [sampleFeeds, List.forall_mem_map, List.forall_mem_cons]
  refine ⟨?_, ?_, ?_, nofun⟩ <;> constructor <;> decide

/-- The last feed and then the first, and the last again. -/
theorem batch_proofs_verify_sampleFeeds :
    ∃ root updates, parseAndVerifyPricesUpdates merklePlatform
        (updatesBytes ([⟨2, by decide⟩, ⟨0, by decide⟩, ⟨2, by decide⟩].map
          (submittedOf merklePlatform sampleFeeds)) [1]) root = .ok updates ∧
      updates.map (fun update => update.priceIdentifier.take 1) = [[8], [6], [8]] := by
  obtain ⟨root, updates, -, -, hparsed, hprices⟩ := batch_proofs_verify
    merklePlatform_lawful merklePlatform_checksProofs sampleFeeds_publishable (by decide)
    (by decide) [⟨2, by decide⟩, ⟨0, by decide⟩, ⟨2, by decide⟩] (by decide) [1]
  refine ⟨root, updates, hparsed, ?_⟩
  have hfirst := congrArg (List.map fun entry : PriceUpdate => entry.priceIdentifier.take 1) hprices
  rwa [List.map_map] at hfirst

/-! ## What is accepted was published

A leaf with a proof that leads to the root of a batch is a message of the batch, or a collision is
at hand. The three ways in which a climb can miss the tree are the three cases of the proof. -/

/-- What is hashed for the tree over a batch of messages. -/
def hashedForTree (pf : Platform) (messages : List Buff) : List Buff :=
  messages.map ([0] ++ ·) ++
    (treePairs (keccak160HashNodes pf) (messages.map (keccak160HashLeaf pf))).map fun pair =>
      [1] ++ ascending pair.1 pair.2

/-- What is hashed for checking a leaf with its proof. -/
def hashedForProof (pf : Platform) (order : Buff → Buff → Buff) (leaf : Buff)
    (proof : List Buff) : List Buff :=
  ([0] ++ leaf) :: (climbPairs (fun node1 node2 => keccak160 pf ([1] ++ order node1 node2))
    (keccak160HashLeaf pf leaf) proof).map fun pair => [1] ++ order pair.1 pair.2

/-- Two different things hashed, one for the tree and one for the proof, have the same hash. -/
def Collides (pf : Platform) (order : Buff → Buff → Buff) (messages : List Buff)
    (update : DecodedPriceUpdate) : Prop :=
  ∃ x ∈ hashedForTree pf messages, ∃ y ∈ hashedForProof pf order update.leafBytes update.proof,
    x ≠ y ∧ keccak160 pf x = keccak160 pf y

instance (pf : Platform) (order : Buff → Buff → Buff) (messages : List Buff)
    (update : DecodedPriceUpdate) : Decidable (Collides pf order messages update) :=
  inferInstanceAs (Decidable (∃ x ∈ _, ∃ y ∈ _, x ≠ y ∧ _ = _))

/-- Two pairs of nodes that are hashed from the same bytes share their first nodes. -/
theorem ChecksProofs.fst_of_order_eq (h : ChecksProofs pf order) {a b c d : Buff}
    (ha : a.length = 20) (hb : b.length = 20) (hc : c.length = 20) (hd : d.length = 20)
    (heq : order a b = ascending c d) : a = c ∨ a = d := by
  -- two nodes of 20 bytes each, so the concatenation is cut in the middle in every case
  rcases h.order_eq a b with hab | hab <;> rcases ascending_eq c d with hcd | hcd <;>
    rw [hab, hcd] at heq
  · exact .inl (List.append_inj_left heq (ha.trans hc.symm))
  · exact .inr (List.append_inj_left heq (ha.trans hd.symm))
  · exact .inr (List.append_inj_right heq (hb.trans hc.symm))
  · exact .inl (List.append_inj_right heq (hb.trans hd.symm))

/-- **A leaf that is accepted for the root of a batch is a message of the batch**, unless two of
the things that are hashed for the tree and for the proof collide. -/
theorem mem_of_checkProof (h : ChecksProofs pf order) {messages : List Buff} {root : Buff}
    {update : DecodedPriceUpdate}
    (hroot : merkleRootHash pf (messages.map (keccak160HashLeaf pf)) = some root)
    (hhashes : ∀ hash ∈ update.proof, hash.length = 20)
    (hcheck : pf.checkProof root update.leafBytes update.proof = true)
    (hcollides : ¬ Collides pf order messages update) : update.leafBytes ∈ messages := by
  have hsame : ∀ {x y}, x ∈ hashedForTree pf messages →
      y ∈ hashedForProof pf order update.leafBytes update.proof →
      keccak160 pf y = keccak160 pf x → y = x := by
    intro x y hx hy hhash
    by_contra hne
    exact hcollides ⟨x, hx, y, hy, Ne.symm hne, hhash.symm⟩
  have htree := forall_treePairs (keccak160HashNodes pf) h.hashNodes_length
    (h.hashLeaf_length messages)
  have hclimb := forall_climbPairs
    (fun node1 node2 => keccak160 pf ([1] ++ order node1 node2))
    (P := fun hash => hash.length = 20) (fun _ _ _ _ => h.keccak160_length _)
    (h.keccak160_length ([0] ++ update.leafBytes)) hhashes
  have hnode : ∀ {p : Buff × Buff}, p ∈ climbPairs
      (fun node1 node2 => keccak160 pf ([1] ++ order node1 node2))
      (keccak160HashLeaf pf update.leafBytes) update.proof →
      [1] ++ order p.1 p.2 ∈ hashedForProof pf order update.leafBytes update.proof :=
    fun hp => List.mem_cons_of_mem _ (List.mem_map.mpr ⟨_, hp, rfl⟩)
  have hpair : ∀ {q : Buff × Buff}, q ∈ treePairs (keccak160HashNodes pf)
      (messages.map (keccak160HashLeaf pf)) →
      [1] ++ ascending q.1 q.2 ∈ hashedForTree pf messages :=
    fun hq => List.mem_append_right _ (List.mem_map.mpr ⟨_, hq, rfl⟩)
  have hleaf : ∀ {message}, message ∈ messages → [0] ++ message ∈ hashedForTree pf messages :=
    fun hmessage => List.mem_append_left _ (List.mem_map.mpr ⟨_, hmessage, rfl⟩)
  have hmem : keccak160HashLeaf pf update.leafBytes ∈ messages.map (keccak160HashLeaf pf) := by
    refine mem_of_climb hroot ((h.checkProof_iff _ _ _).mp hcheck) (fun p hp q hq heq => ?_)
      (fun p hp hbad => ?_) (fun q hq hbad => ?_)
    · -- two pairs have one hash: without a collision the same bytes were hashed
      have hbytes := hsame (hpair hq) (hnode hp) heq
      obtain ⟨ha, hb⟩ := hclimb p hp
      obtain ⟨hc, hd⟩ := htree q hq
      exact h.fst_of_order_eq ha hb hc hd (List.append_cancel_left hbytes)
    · -- a pair of the proof has the hash of a leaf, but its bytes start with another prefix
      obtain ⟨message, hmessage, hhash⟩ := List.mem_map.mp hbad
      have hbytes := hsame (hleaf hmessage) (hnode hp) hhash.symm
      cases hbytes
    · -- the leaf itself has the hash of a pair of the tree, and again the prefixes differ
      have hbytes := hsame (hpair hq) (List.mem_cons_self) hbad
      cases hbytes
  obtain ⟨message, hmessage, hhash⟩ := List.mem_map.mp hmem
  have hbytes := hsame (hleaf hmessage) (List.mem_cons_self) hhash.symm
  rw [List.append_cancel_left hbytes]
  exact hmessage

/-! ## The messages behind the prices

Opening a message and decoding it differ only in the check of the source and in the world that the
wormhole contract may change. -/

/-- What the decoder finds in a message, for a wormhole contract that answers as `verify`: the
VAA, the root in its payload, and the updates that are verified against it. -/
def openMessage (pf : Platform) (verify : Buff → Exec Vaa) (pnauBytes : Buff) :
    Exec (Vaa × Buff × List DecodedPriceUpdate) := do
  let cursorPnauHeader ← parsePnauHeader pf pnauBytes
  let cursorPnauVaaSize ← tryResponse (pf.hkCursor.readUint16 cursorPnauHeader.next)
  let cursorPnauVaa ← tryResponse
    (pf.hkCursor.readBuff8192Max cursorPnauVaaSize.next (some cursorPnauVaaSize.value))
  let vaa ← verify cursorPnauVaa.value
  let cursorMerkleRootData ← parseMerkleRootDataFromVaaPayload pf vaa.payload
  let root := cursorMerkleRootData.value.merkleRootHash
  let updates ← parseAndVerifyPricesUpdates pf (pf.hkCursor.slice cursorPnauVaa.next none) root
  pure (vaa, root, updates)

/-- A message that is decoded with a wormhole contract that only reads. -/
theorem openMessage_of_decoded {φ : Type} {vm : Dispatch (World φ)} (verify : Buff → Exec Vaa)
    {pnauBytes : Buff} {wormholeCoreAddress : Principal} {w w₁ : World φ}
    {prices : List PriceUpdate}
    (h : decodePnauPriceUpdate pf vm pnauBytes wormholeCoreAddress w = (.ok prices, w₁))
    (hvm : ∀ vaaBytes vaa w₁,
      vm.parseAndVerifyVaa pf.pythPnauDecoderV1 wormholeCoreAddress vaaBytes w = (.ok vaa, w₁) →
      verify vaaBytes = .ok vaa ∧ w₁ = w) :
    ∃ vaa root updates, openMessage pf verify pnauBytes = .ok (vaa, root, updates) ∧
      vaa.emitter ∈ w.governance.pricesDataSources ∧ prices = updates.map castDecodedPrice := by
  simp only [decodePnauPriceUpdate, Contract.bind_eq_ok, Contract.lift_apply,
    Contract.gets_apply, Contract.pure_apply, Prod.mk.injEq, unwrapOpt_eq_ok] at h
  obtain ⟨header, _, ⟨hheader, rfl⟩, size, _, ⟨hsize, rfl⟩, vaaRead, _, ⟨hvaaRead, rfl⟩, vaa, _,
    hvaa, data, _, ⟨hdata, rfl⟩, updates, _, ⟨hupdates, rfl⟩, sources, _, ⟨hsources, rfl⟩, _, _,
    ⟨hsource, rfl⟩, hprices, rfl⟩ := h
  cases hsources
  cases hprices
  obtain ⟨hverified, rfl⟩ := hvm _ _ _ hvaa
  refine ⟨vaa, data.value.merkleRootHash, updates, ?_, ?_, rfl⟩
  · simp only [openMessage, exec_bind_eq_ok, exec_pure_eq_ok]
    exact ⟨header, hheader, size, hsize, vaaRead, hvaaRead, vaa, hverified, data, hdata,
      updates, hupdates, rfl⟩
  · rw [Vaa.emitter]
    -- a source that is not in the list has no index in it
    by_contra hnot
    rw [Governance.getAuthorizedPricesDataSources,
      List.idxOf?_eq_none_iff.mpr hnot] at hsource
    cases hsource

/-- A message that can be opened is decoded, when its VAA comes from an authorized source. -/
theorem decodePnauPriceUpdate_of_openMessage {φ : Type} {vm : Dispatch (World φ)}
    {verify : Buff → Exec Vaa} {pnauBytes root : Buff} {wormholeCoreAddress : Principal}
    {w : World φ} {vaa : Vaa} {updates : List DecodedPriceUpdate}
    (hopen : openMessage pf verify pnauBytes = .ok (vaa, root, updates))
    (hvm : ∀ vaaBytes, verify vaaBytes = .ok vaa →
      vm.parseAndVerifyVaa pf.pythPnauDecoderV1 wormholeCoreAddress vaaBytes w = (.ok vaa, w))
    (hsource : vaa.emitter ∈ w.governance.pricesDataSources) :
    decodePnauPriceUpdate pf vm pnauBytes wormholeCoreAddress w =
      (.ok (updates.map castDecodedPrice), w) := by
  simp only [openMessage, exec_bind_eq_ok, exec_pure_eq_ok, Prod.mk.injEq] at hopen
  obtain ⟨header, hheader, size, hsize, vaaRead, hvaaRead, vaa, hverified, data, hdata, updates,
    hupdates, rfl, rfl, rfl⟩ := hopen
  obtain ⟨i, hsource⟩ : ∃ i, w.governance.pricesDataSources.idxOf?
      ⟨vaa.emitterChain, vaa.emitterAddress⟩ = some i := by
    refine Option.ne_none_iff_exists'.mp fun hnone => ?_
    exact List.idxOf?_eq_none_iff.mp hnone hsource
  simp only [decodePnauPriceUpdate, Contract.bind_eq_ok, Contract.lift_apply, Contract.gets_apply,
    Contract.pure_apply, Prod.mk.injEq, unwrapOpt_eq_ok]
  exact ⟨header, w, ⟨hheader, rfl⟩, size, w, ⟨hsize, rfl⟩, vaaRead, w, ⟨hvaaRead, rfl⟩, vaa, w,
    hvm _ hverified, data, w, ⟨hdata, rfl⟩, updates, w, ⟨hupdates, rfl⟩, _, w, ⟨rfl, rfl⟩, i, w,
    ⟨hsource, rfl⟩, rfl, rfl⟩

/-- A written message is opened as what was written, when its VAA is let through and the proofs
lead to the root in its payload. -/
theorem openMessage_pnauMessage (hk : pf.hkCursor.Lawful) {verify : Buff → Exec Vaa}
    {headerTrailing vaaBytes updatesTrailing payloadTrailing root : Buff} {slot ringSize : Nat}
    {submitted : List SubmittedUpdate} {vaa : Vaa} (htrailing : headerTrailing.length < 2 ^ 8)
    (hvaaLength : vaaBytes.length < 2 ^ 16) (hvaa : vaaBytes ≠ [])
    (hverified : verify vaaBytes = .ok vaa)
    (hpayload : vaa.payload = auwvPayload slot ringSize root payloadTrailing)
    (hslot : slot < 2 ^ 64) (hringSize : ringSize < 2 ^ 32) (hroot : root.length = 20)
    (hcount : submitted.length ≤ 64) (hfits : ∀ s ∈ submitted, s.Fits)
    (hproofs : ∀ s ∈ submitted, pf.checkProof root (messageBytes s) s.proof = true) :
    openMessage pf verify
        (pnauMessage headerTrailing vaaBytes (updatesBytes submitted updatesTrailing)) =
      .ok (vaa, root, submitted.map decodedUpdate) := by
  obtain ⟨header, hheader, -, r₁⟩ := parsePnauHeader_pnauMessage hk vaaBytes
    (updatesBytes submitted updatesTrailing) htrailing
  obtain ⟨hsize, r₂⟩ := hk.readUint16.uint_of_rest r₁ (by simpa using hvaaLength) (by decide)
  obtain ⟨hvaaRead, r₃⟩ := hk.readSome_of_rest r₂ fun hnil => absurd hnil hvaa
  obtain ⟨data, hdata, hmerkleRoot⟩ := parseMerkleRootDataFromVaaPayload_auwvPayload hk
    payloadTrailing hslot hringSize hroot
  have hupdates := parseAndVerifyPricesUpdates_updatesBytes hk updatesTrailing hcount hfits hproofs
  simp only [openMessage, exec_bind_eq_ok, exec_pure_eq_ok, tryResponse_eq_ok, Prod.mk.injEq]
  refine ⟨header, hheader, _, hsize, _, hvaaRead, vaa, hverified, data, ?_,
    submitted.map decodedUpdate, ?_, rfl, hmerkleRoot, rfl⟩
  · rw [hpayload]
    exact hdata
  · rw [hk.slice_none, hmerkleRoot, r₃]
    exact hupdates

/-- The fields of a serialized update are its own. -/
theorem fieldsOf_messageBytes (hk : pf.hkCursor.Lawful) {s : SubmittedUpdate} (hs : s.Fits) :
    FieldsOf (messageBytes s) (decodedUpdate s) := by
  have hbytes : (recordBytes s).drop 0 = recordBytes s ++ [] := by
    rw [List.append_nil, List.drop_zero]
  have hdecode := decodeRecord_recordBytes hk hs hbytes
  obtain ⟨hrecord, -⟩ := decodeRecord_eq_ok hk hdecode
  have hlength : 85 ≤ messageSize (recordBytes s) 0 := by
    rw [← hrecord.leafBytes_length]
    show 85 ≤ (messageBytes s).length
    rw [hs.messageBytes_length]
    omega
  have htake := hrecord.fields.take_iff.mpr hlength
  rwa [← hrecord.leafBytes] at htake

/-- A batch whose messages are long enough for the fields of a price says what was verified
against its root. -/
theorem fieldsOf_of_openMessage (hk : pf.hkCursor.Lawful) (h : ChecksProofs pf order)
    {verify : Buff → Exec Vaa} {pnauBytes root : Buff} {vaa : Vaa}
    {updates : List DecodedPriceUpdate} {messages : List Buff}
    (hopen : openMessage pf verify pnauBytes = .ok (vaa, root, updates))
    (hroot : merkleRootHash pf (messages.map (keccak160HashLeaf pf)) = some root)
    (hlong : ∀ message ∈ messages, 85 ≤ message.length) {update : DecodedPriceUpdate}
    (hupdate : update ∈ updates) (hcollides : ¬ Collides pf order messages update) :
    update.leafBytes ∈ messages ∧ FieldsOf update.leafBytes update := by
  simp only [openMessage, exec_bind_eq_ok, exec_pure_eq_ok, Prod.mk.injEq] at hopen
  obtain ⟨_, -, _, -, _, -, _, -, _, -, _, hparsed, -, rfl, rfl⟩ := hopen
  obtain ⟨⟨_, hrecords, -⟩, hproofs⟩ := parseAndVerifyPricesUpdates_eq_ok hk hparsed
  obtain ⟨pos, stride, hdecode⟩ := hrecords.exists_decode update hupdate
  obtain ⟨hrecord, -⟩ := decodeRecord_eq_ok hk hdecode
  have hmem := mem_of_checkProof h hroot (decodeRecord_proof hk hdecode).1
    (hproofs update hupdate) hcollides
  refine ⟨hmem, ?_⟩
  have hlength := hlong _ hmem
  rw [hrecord.leafBytes_length] at hlength
  have htake := hrecord.fields.take_iff.mpr hlength
  rwa [← hrecord.leafBytes] at htake

end PythBridge.PnauDecoder
