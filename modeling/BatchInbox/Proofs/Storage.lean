import BatchInbox.Proofs.Cache

/-!
# What is stored is what is loaded

A file is found by its path, which is put together from a directory, the number of the L2 chain and
that of the block.  Numbers are not all written with the same length; but the digits of the chain end
at a slash, and those of the block at a full stop.  So no two blocks share a path, also if they are of
different chains, and a file that is written is in the way of no other one.

A path depends on the data directory too, which may be given with a slash at its end or without, or be
empty.  That is the same for all files, and in front of all that matters.

## What is here

* `Disk.toList_path`, `Disk.path_inj` — paths, and that they tell blocks apart.
* `Disk.files` — what is at each path below a data directory; `lookup_files`, `lookup_files_put`.
* `Disk.storeAll?`, `Disk.lastStored?` — storing again and again, and what was stored last.
* `Disk.loads_stored` — what is loaded after any number of stores.
-/

set_option autoImplicit false
namespace BatchInbox
namespace Disk

/-! ## Paths -/

/-- The directory, with the slash that separates it from what is in it. -/
def front (directory : String) : List Char :=
  if directory.isEmpty || directory.endsWith "/" then directory.toList else directory.toList ++ ['/']

theorem toList_join (directory name : String) :
    (join directory name).toList = front directory ++ name.toList := by
  rw [join, front]
  split
  · rw [String.toList_append]
  · rw [String.toList_append, String.toList_append]
    rfl

/-- A directory with a name is separated by a slash, unless it has one already. -/
theorem front_of_getLast? {directory : String} {c : Char}
    (h : directory.toList.getLast? = some c) (hc : c ≠ '/') :
    front directory = directory.toList ++ ['/'] := by
  have hempty : directory.isEmpty = false := by
    refine Bool.eq_false_iff.2 fun hempty => ?_
    rw [String.isEmpty_iff.1 hempty] at h
    exact absurd h nofun
  have hslash : directory.endsWith "/" = false := by
    refine Bool.eq_false_iff.2 fun hslash => hc ?_
    have hends : "/".toList <:+ directory.toSlice.copy.toList :=
      String.Slice.endsWith_string_iff.1 hslash
    rw [String.copy_toSlice] at hends
    obtain ⟨before, hlast⟩ := hends
    rw [← hlast, List.getLast?_append] at h
    exact (Option.some.inj h).symm
  rw [front, hempty, hslash]
  rfl

theorem getLast?_toDigits (n : Nat) :
    ∃ c, (Nat.toDigits 10 n).getLast? = some c ∧ c.isDigit = true := by
  have hlast := List.getLast?_eq_some_getLast (Nat.toDigits_ne_nil (n := n) (b := 10))
  exact ⟨_, hlast, Nat.isDigit_of_mem_toDigits (by decide) (by decide) (List.mem_of_getLast? hlast)⟩

/-- **The path of a block**, by its parts. -/
theorem toList_path (root : String) (chain n : Word) :
    (path root chain n).toList =
      front root ++ (Nat.toDigits 10 chain.toNat ++ '/' :: ("transactions_cache/".toList ++
        (Nat.toDigits 10 n.toNat ++ '.' :: "json".toList))) := by
  have hchain : (join root (toString chain)).toList = front root ++ Nat.toDigits 10 chain.toNat :=
    (toList_join _ _).trans (congrArg _ Nat.toList_repr)
  have hcache : (join (join root (toString chain)) "transactions_cache").toList =
      front root ++ Nat.toDigits 10 chain.toNat ++ '/' :: "transactions_cache".toList := by
    obtain ⟨c, hlast, hdigit⟩ := getLast?_toDigits chain.toNat
    have hfront : front (join root (toString chain)) =
        (join root (toString chain)).toList ++ ['/'] := by
      refine front_of_getLast? (c := c) ?_ fun hslash => ?_
      · rw [hchain, List.getLast?_append, hlast]
        rfl
      · rw [hslash] at hdigit
        exact absurd hdigit (by decide)
    rw [toList_join, hfront, hchain, List.append_assoc _ ['/']]
    rfl
  have hname : (fileName n).toList = Nat.toDigits 10 n.toNat ++ '.' :: "json".toList := by
    show (Nat.repr n.toNat ++ ".json").toList = _
    rw [String.toList_append, Nat.toList_repr]
    rfl
  have hfront : front (join (join root (toString chain)) "transactions_cache") =
      (join (join root (toString chain)) "transactions_cache").toList ++ ['/'] := by
    refine front_of_getLast? (c := 'e') ?_ (by decide)
    rw [hcache, List.getLast?_append]
    rfl
  rw [path, toList_join, hfront, hcache, hname]
  simp only [List.append_assoc, List.cons_append]
  rfl

/-- Digits that end at the same character are the same. -/
theorem eq_of_digits_append {m n : Nat} {c : Char} (hc : c.isDigit = false) {rest rest' : List Char}
    (h : Nat.toDigits 10 m ++ c :: rest = Nat.toDigits 10 n ++ c :: rest') :
    m = n ∧ rest = rest' := by
  have hdigits : ∀ k, ∀ d ∈ Nat.toDigits 10 k, d.isDigit = true := fun k d hd =>
    Nat.isDigit_of_mem_toDigits (by decide) (by decide) hd
  have htake : Nat.toDigits 10 m = Nat.toDigits 10 n := by
    have htake := congrArg (List.takeWhile Char.isDigit) h
    rwa [List.takeWhile_append_of_pos (hdigits m), List.takeWhile_append_of_pos (hdigits n),
      List.takeWhile_cons_of_neg (by simp [hc]), List.takeWhile_cons_of_neg (by simp [hc]),
      List.append_nil, List.append_nil] at htake
  refine ⟨?_, ?_⟩
  · rw [← Nat.ofDigitChars_ten_toDigits (n := m), htake, Nat.ofDigitChars_ten_toDigits]
  · rw [htake] at h
    exact (List.cons.inj (List.append_cancel_left h)).2

/-- **No two blocks share a path.** -/
theorem path_inj {root : String} {chain n chain' n' : Word} :
    path root chain' n' = path root chain n ↔ (chain', n') = (chain, n) := by
  refine ⟨fun h => ?_, fun h => by cases h; rfl⟩
  have hlist := congrArg String.toList h
  rw [toList_path, toList_path] at hlist
  obtain ⟨hchain, hrest⟩ := eq_of_digits_append (by decide) (List.append_cancel_left hlist)
  obtain ⟨hn, -⟩ := eq_of_digits_append (by decide) (List.append_cancel_left hrest)
  rw [UInt64.toNat_inj.1 hchain, UInt64.toNat_inj.1 hn]

/-! ## Files -/

/-- What is at each path below a data directory. -/
def files (root : String) (d : Disk) : List (String × Entry) :=
  d.entries.map fun e => (path root e.1.1 e.1.2, e.2)

/-- **What is at the path of a block** is what the disk finds for it. -/
theorem lookup_files (root : String) (d : Disk) (chain n : Word) :
    (d.files root).lookup (path root chain n) = d.find? chain n := by
  obtain ⟨entries⟩ := d
  simp only [files, find?]
  induction entries with
  | nil => rfl
  | cons e entries ih =>
    rw [List.map_cons, List.lookup_cons, List.lookup_cons, ih]
    by_cases hkey : (chain, n) = e.1
    · rw [beq_iff_eq.2 hkey, beq_iff_eq.2 (path_inj.2 hkey)]
    · rw [beq_false_of_ne hkey, beq_false_of_ne fun hpath => hkey (path_inj.1 hpath)]

/-- Putting something at the path of a block changes nothing at other paths. -/
theorem lookup_files_put (root : String) (d : Disk) (chain n : Word) (entry : Entry) (p : String) :
    ((d.put chain n entry).files root).lookup p =
      if p = path root chain n then some entry else (d.files root).lookup p := by
  rw [files, put, List.map_cons, List.lookup_cons]
  by_cases hp : p = path root chain n
  · rw [if_pos hp, beq_iff_eq.2 hp]
  · have hfilter : (d.entries.filter (·.1 ≠ (chain, n))).map
          (fun e => (path root e.1.1 e.1.2, e.2)) =
        (d.files root).filter (·.1 ≠ path root chain n) := by
      rw [files, List.filter_map]
      refine congrArg _ (List.filter_congr fun e _ => ?_)
      simp only [Function.comp_apply, ne_eq, decide_not, path_inj]
    rw [if_neg hp, beq_false_of_ne hp, hfilter]
    exact lookup_filter_of_ne hp (by simp) _

/-! ## Storing again and again -/

/-- The disk behind stores, one after the other, if all of them succeed. -/
def storeAll? (d : Disk) : List ((Word × Word) × List InboxTx) → Option Disk
  | [] => some d
  | ((chain, n), txs) :: stores => (d.store? chain n txs).bind (·.storeAll? stores)

/-- What was stored last for a block. -/
def lastStored? (stores : List ((Word × Word) × List InboxTx)) (chain n : Word) :
    Option (List InboxTx) :=
  stores.reverse.lookup (chain, n)

/-- **Any number of stores.** -/
theorem load?_storeAll? {stores : List ((Word × Word) × List InboxTx)} {d d' : Disk}
    (h : d.storeAll? stores = some d') (chain n : Word) :
    d'.load? chain n = (lastStored? stores chain n).or (d.load? chain n) := by
  induction stores generalizing d with
  | nil =>
    cases h
    rfl
  | cons store stores ih =>
    obtain ⟨⟨chain', n'⟩, txs⟩ := store
    obtain ⟨d₁, hfirst, hrest⟩ := Option.bind_eq_some_iff.1 h
    rw [ih hrest, load?_store? hfirst, lastStored?, lastStored?, List.reverse_cons,
      List.lookup_append, Option.or_assoc, List.lookup_cons]
    by_cases hkey : (chain, n) = (chain', n')
    · rw [if_pos hkey, beq_iff_eq.2 hkey]
      rfl
    · rw [if_neg hkey, beq_false_of_ne hkey]
      rfl

/-- **What is stored is what is loaded.**  Behind a store that succeeded, the transactions are loaded
for the block, whatever was at its path, and what is loaded for other blocks, and for other chains, is
what it was.  On disk one file has changed, which is the one at the path of the block, and a block is
looked for at its path.  A store succeeds unless a directory is in its way.

Behind any number of stores, what is loaded for a block is what was stored last for it. -/
theorem loads_stored (root : String) (d : Disk) :
    (∀ chain n txs d', d.store? chain n txs = some d' →
      d'.load? chain n = some txs ∧
      (∀ chain' n', (chain', n') ≠ (chain, n) → d'.load? chain' n' = d.load? chain' n') ∧
      ∀ p, (d'.files root).lookup p =
        if p = path root chain n then some (.file (content n txs)) else (d.files root).lookup p) ∧
    (∀ chain n, (d.files root).lookup (path root chain n) = d.find? chain n) ∧
    (∀ chain n txs, d.store? chain n txs = none ↔ d.find? chain n = some .directory) ∧
    ∀ stores d', d.storeAll? stores = some d' → ∀ chain n,
      d'.load? chain n = (lastStored? stores chain n).or (d.load? chain n) := by
  refine ⟨fun chain n txs d' h => ⟨load?_of_store? h, fun chain' n' hkey => ?_, fun p => ?_⟩,
    lookup_files root d, fun _ _ _ => store?_eq_none_iff, fun _ _ h => load?_storeAll? h⟩
  · rw [load?_store? h, if_neg hkey]
  · rw [eq_put_of_store? h]
    exact lookup_files_put root d chain n _ p

/-! ### An example

A file that is no text is replaced, then again, and a file of another chain is written in between. -/

theorem text?_stray : Bytes.text? [0xff] = none := by
  decide +kernel

/-- A disk with a stray file. -/
def strayDisk : Disk := ⟨[((901, 7), .binary [0xff] text?_stray)]⟩

/-- A transaction with the given hashes and places of blobs. -/
def strayTx (blobHashes : List Hash) (blobIndices : List Word) : InboxTx :=
  ⟨7, 0xffffffffffffffff, 3, BytesN.zero 32, BytesN.zero 20, BytesN.zero 20, 3, [], blobHashes,
    blobIndices⟩

/-- Three stores; the last one is for the same block as the first. -/
def strayStores : List ((Word × Word) × List InboxTx) :=
  [((901, 7), []), ((10, 7), [strayTx [] [4]]), ((901, 7), [strayTx [BytesN.zero 32] []])]

/-- The first store replaces the stray file, and no other one. -/
theorem loads_stored_threeStores :
    (∃ d', strayDisk.store? 901 7 [] = some d' ∧ d'.load? 901 7 = some [] ∧
      d'.load? 10 7 = strayDisk.load? 10 7) ∧
    ∃ d', strayDisk.storeAll? strayStores = some d' ∧
      d'.load? 901 7 = some [strayTx [BytesN.zero 32] []] ∧
      d'.load? 10 7 = some [strayTx [] [4]] ∧ d'.load? 901 70 = none := by
  obtain ⟨hstore, -, -, hloads⟩ := loads_stored "data" strayDisk
  obtain ⟨hload, hothers, -⟩ := hstore 901 7 [] _ rfl
  exact ⟨⟨_, rfl, hload, hothers 10 7 (by decide)⟩, _, rfl, hloads strayStores _ rfl 901 7,
    hloads strayStores _ rfl 10 7, hloads strayStores _ rfl 901 70⟩

end Disk
end BatchInbox
