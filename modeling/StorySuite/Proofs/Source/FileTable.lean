import Mathlib.Data.Finset.Card
import StorySuite.Proofs.Path.Location
import StorySuite.Source.FileTable

/-!
# Proofs — Source — a table of files is a map over places

A table keeps its files under cleaned paths.  Two paths are cleaned to one exactly if they lead to
one place (`Path.clean_eq_clean_iff`), so what is asked of a table, in whatever order, is answered as
by a map from places (`Location`) to bytes: by what was stored last at the place that a path leads
to, taken from the table's root (`answer`).

* `get?_store`, `nodup_keys_store`, `mem_keys_store`: what storing does to the entries.
* `Shows`: the table shows what was stored; `Shows.add` is the step that keeps it.
* `Shows.size_eq`: the table has as many files as there are places.
* **`serveAll_isMap`**: all requests to a table, one after the other.
-/

namespace StorySuite.FileTable

/-! ### Entries -/

section Entries

variable {root key : Path} {bytes : List UInt8}

/-- The bytes under a key are those that were stored under it last. -/
theorem get?_store (root key : Path) (bytes : List UInt8) (key' : Path) :
    ∀ entries : List (Path × List UInt8),
      (FileTable.mk root (store key bytes entries)).get? key' =
        if key' = key then some bytes else (FileTable.mk root entries).get? key'
  | [] => by
      by_cases h : key' = key
      · simp [store, get?, h]
      · simp [store, get?, h, Ne.symm h]
  | (k, old) :: rest => by
      have hrest := get?_store root key bytes key' rest
      unfold get? at hrest ⊢
      by_cases hk : k = key
      · by_cases h : key' = key
        · simp [store, hk, h]
        · simp [store, hk, h, Ne.symm h]
      · by_cases h : k = key'
        · have hne : key' ≠ key := fun heq => hk (h.trans heq)
          simp [store, h, hne]
        · simpa [store, hk, h] using hrest

theorem mem_keys_store {k : Path} : ∀ {entries : List (Path × List UInt8)},
    k ∈ (store key bytes entries).map Prod.fst ↔ k = key ∨ k ∈ entries.map Prod.fst
  | [] => by simp [store]
  | (k', old) :: rest => by
      have hrest : k ∈ (store key bytes rest).map Prod.fst ↔ k = key ∨ k ∈ rest.map Prod.fst :=
        mem_keys_store
      unfold store
      split
      · rename_i hk
        simp [eq_of_beq hk]
      · rw [List.map_cons, List.map_cons, List.mem_cons, List.mem_cons, hrest]
        exact or_left_comm

/-- Storing makes no key stand twice. -/
theorem nodup_keys_store : ∀ {entries : List (Path × List UInt8)},
    (entries.map Prod.fst).Nodup → ((store key bytes entries).map Prod.fst).Nodup
  | [], _ => List.nodup_singleton key
  | (k, old) :: rest, h => by
      obtain ⟨hk, hrest⟩ := List.nodup_cons.mp h
      unfold store
      split
      · exact h
      · rename_i hne
        refine List.nodup_cons.mpr ⟨fun hmem => ?_, nodup_keys_store hrest⟩
        rcases mem_keys_store.mp hmem with heq | hmem
        · exact hne (beq_iff_eq.mpr heq)
        · exact hk hmem

end Entries

/-! ### Requests and answers -/

/-- A table without files. -/
def empty (root : Path) : FileTable :=
  { root }

/-- What can be asked of a table. -/
inductive Request where
  | add (p : Path) (bytes : List UInt8)
  | read (p : Path)
  | holds (p : Path)
  | size

/-- What a table answers. -/
inductive Answer where
  | added
  | read (result : Except ReadError (List UInt8))
  | holds (yes : Bool)
  | size (count : Nat)

/-- The answer of a table to a request. -/
def reply (t : FileTable) : Request → Answer
  | .add .. => .added
  | .read p => .read (t.read p)
  | .holds p => .holds (t.holds p)
  | .size => .size t.size

/-- The table after a request. -/
def serve (t : FileTable) : Request → FileTable
  | .add p bytes => t.add p bytes
  | .read _ | .holds _ | .size => t

/-- The table after some requests. -/
def serveAll (t : FileTable) (requests : List Request) : FileTable :=
  requests.foldl serve t

/-- The answers of a table to requests that are made one after the other. -/
def replyAll (t : FileTable) : List Request → List Answer
  | [] => []
  | r :: rest => t.reply r :: (t.serve r).replyAll rest

/-! ### The map -/

/-- What a request stores at a place, the path being taken from `root`. -/
def Request.stored (root : Path) : Request → List (Location × List UInt8)
  | .add p bytes => [(root.locationFrom p, bytes)]
  | .read _ | .holds _ | .size => []

/-- What requests store at places, one after the other. -/
def stored (root : Path) (requests : List Request) : List (Location × List UInt8) :=
  requests.flatMap (Request.stored root)

/-- What was stored last at a place. -/
def lastAt? (stores : List (Location × List UInt8)) (l : Location) : Option (List UInt8) :=
  stores.reverse.lookup l

/-- The bytes at a place; where none are stored, the place is told as a path. -/
def readAt (stores : List (Location × List UInt8)) (l : Location) :
    Except ReadError (List UInt8) :=
  match lastAt? stores l with
  | some bytes => .ok bytes
  | none => .error (.notFound l.path)

/-- The places at which something is stored. -/
def places (stores : List (Location × List UInt8)) : Finset Location :=
  (stores.map Prod.fst).toFinset

/-- How a map from places to bytes answers a request after `stores`. -/
def answer (root : Path) (stores : List (Location × List UInt8)) : Request → Answer
  | .add .. => .added
  | .read p => .read (readAt stores (root.locationFrom p))
  | .holds p => .holds (lastAt? stores (root.locationFrom p)).isSome
  | .size => .size (places stores).card

/-- How the map answers requests that are made one after the other. -/
def answers (root : Path) (stores : List (Location × List UInt8)) : List Request → List Answer
  | [] => []
  | r :: rest => answer root stores r :: answers root (stores ++ r.stored root) rest

theorem lastAt?_concat (stores : List (Location × List UInt8)) (l : Location)
    (bytes : List UInt8) (l' : Location) :
    lastAt? (stores ++ [(l, bytes)]) l' = if l' = l then some bytes else lastAt? stores l' := by
  unfold lastAt?
  rw [List.reverse_append, List.reverse_singleton, List.singleton_append]
  by_cases h : l' = l
  · rw [if_pos h, List.lookup_cons, beq_iff_eq.mpr h]
  · rw [if_neg h, List.lookup_cons, beq_eq_false_iff_ne.mpr h]

theorem readAt_concat (stores : List (Location × List UInt8)) (l : Location) (bytes : List UInt8)
    (l' : Location) :
    readAt (stores ++ [(l, bytes)]) l' = if l' = l then .ok bytes else readAt stores l' := by
  unfold readAt
  rw [lastAt?_concat]
  by_cases h : l' = l
  · simp only [if_pos h]
  · simp only [if_neg h]

theorem places_concat (stores : List (Location × List UInt8)) (l : Location)
    (bytes : List UInt8) : places (stores ++ [(l, bytes)]) = insert l (places stores) := by
  ext l'
  simp [places]

/-- A table under `root` shows what was stored: under the path of a place, the last that was stored
there, and nothing else. -/
structure Shows (root : Path) (stores : List (Location × List UInt8)) (t : FileTable) : Prop where
  root_eq : t.root = root
  get?_path : ∀ l : Location, l.IsNamed → t.get? l.path = lastAt? stores l
  named : ∀ l ∈ places stores, l.IsNamed
  nodup : (t.entries.map Prod.fst).Nodup
  mem_keys_iff : ∀ key, key ∈ t.entries.map Prod.fst ↔ ∃ l ∈ places stores, l.path = key

namespace Shows

variable {root : Path} {stores : List (Location × List UInt8)} {t : FileTable}

theorem start (root : Path) : Shows root [] (empty root) where
  root_eq := rfl
  get?_path _ _ := rfl
  named _ h := absurd h (Finset.notMem_empty _)
  nodup := List.nodup_nil
  mem_keys_iff := by simp [empty, places]

theorem key_eq (h : Shows root stores t) (p : Path) : t.key p = (root.locationFrom p).path := by
  unfold key
  rw [h.root_eq, Path.locate_eq_path]

/-- What a key has is what was stored last at the place that the path leads to. -/
theorem get?_key (h : Shows root stores t) (p : Path) :
    t.get? (t.key p) = lastAt? stores (root.locationFrom p) := by
  rw [h.key_eq, h.get?_path _ (Path.isNamed_locationFrom root p)]

/-- **Storing goes on as in the map.** -/
theorem add (h : Shows root stores t) (p : Path) (bytes : List UInt8) :
    Shows root (stores ++ [(root.locationFrom p, bytes)]) (t.add p bytes) := by
  have hplaces := places_concat stores (root.locationFrom p) bytes
  have hnamed := Path.isNamed_locationFrom root p
  constructor
  · exact h.root_eq
  · intro l hl
    have hget : (t.add p bytes).get? l.path =
        if l.path = t.key p then some bytes else t.get? l.path := get?_store _ _ _ _ t.entries
    rw [hget, lastAt?_concat, h.get?_path l hl, h.key_eq]
    exact if_congr (Location.path_inj hl hnamed) rfl rfl
  · rw [hplaces, Finset.forall_mem_insert]
    exact ⟨hnamed, h.named⟩
  · exact nodup_keys_store h.nodup
  · intro key
    have hmem : key ∈ (t.add p bytes).entries.map Prod.fst ↔
        key = t.key p ∨ key ∈ t.entries.map Prod.fst := mem_keys_store
    rw [hmem, h.key_eq, h.mem_keys_iff, hplaces, Finset.exists_mem_insert]
    exact or_congr_left eq_comm

/-- The table after a request shows what was stored by then. -/
theorem serve (h : Shows root stores t) (r : Request) :
    Shows root (stores ++ r.stored root) (t.serve r) := by
  cases r with
  | add p bytes => exact h.add p bytes
  | read p | holds p | size =>
      rw [Request.stored, List.append_nil]
      exact h

theorem serveAll : ∀ (requests : List Request) {stores : List (Location × List UInt8)}
    {t : FileTable}, Shows root stores t →
      Shows root (stores ++ stored root requests) (t.serveAll requests)
  | [], stores, t, h => by
      rw [stored, List.flatMap_nil, List.append_nil]
      exact h
  | r :: rest, stores, t, h => by
      have hrest := serveAll rest (h.serve r)
      rwa [List.append_assoc] at hrest

theorem read_eq (h : Shows root stores t) (p : Path) :
    t.read p = readAt stores (root.locationFrom p) := by
  have hget := h.get?_key p
  cases hlast : lastAt? stores (root.locationFrom p) with
  | none =>
      rw [hlast] at hget
      have hread : t.read p = .error (.notFound (t.key p)) := by simp only [read, hget]
      simp only [hread, readAt, hlast, h.key_eq]
  | some bytes =>
      rw [hlast] at hget
      simp only [read, readAt, hget, hlast]

theorem holds_eq (h : Shows root stores t) (p : Path) :
    t.holds p = (lastAt? stores (root.locationFrom p)).isSome := by
  unfold holds
  rw [h.get?_key]

/-- **There are as many files as places**: the paths of two places are two. -/
theorem size_eq (h : Shows root stores t) : t.size = (places stores).card := by
  have hkeys : (t.entries.map Prod.fst).toFinset = (places stores).image Location.path := by
    ext key
    rw [List.mem_toFinset, h.mem_keys_iff, Finset.mem_image]
  have hinj : Set.InjOn Location.path (places stores) := fun l hl l' hl' heq =>
    (Location.path_inj (h.named l hl) (h.named l' hl')).mp heq
  calc t.size = (t.entries.map Prod.fst).length := (List.length_map Prod.fst).symm
    _ = (t.entries.map Prod.fst).toFinset.card := (List.toFinset_card_of_nodup h.nodup).symm
    _ = ((places stores).image Location.path).card := congrArg Finset.card hkeys
    _ = (places stores).card := Finset.card_image_of_injOn hinj

/-- A request is answered as by the map. -/
theorem reply_eq (h : Shows root stores t) (r : Request) : t.reply r = answer root stores r := by
  cases r with
  | add p bytes => rfl
  | read p => exact congrArg Answer.read (h.read_eq p)
  | holds p => exact congrArg Answer.holds (h.holds_eq p)
  | size => exact congrArg Answer.size h.size_eq

theorem replyAll_eq : ∀ (requests : List Request) {stores : List (Location × List UInt8)}
    {t : FileTable}, Shows root stores t → t.replyAll requests = answers root stores requests
  | [], _, _, _ => rfl
  | r :: rest, stores, t, h => by
      rw [replyAll, answers, h.reply_eq, replyAll_eq rest (h.serve r)]

end Shows

/-- The table shows what was stored by the requests that it was asked. -/
theorem shows_serveAll (root : Path) (requests : List Request) :
    Shows root (stored root requests) ((empty root).serveAll requests) :=
  (Shows.start root).serveAll requests

theorem holds_iff_read {t : FileTable} {p : Path} :
    t.holds p = true ↔ ∃ bytes, t.read p = .ok bytes := by
  unfold holds read
  cases t.get? (t.key p) <;> simp

/-- **A table of files is a map over places.**  Under every root, requests of all kinds, one after
the other, are answered as by a map from the places that paths lead to: what is read is what was
stored last at the place, where nothing was stored the place is told, and the size is the number of
places.  A file is there exactly if it can be read, and storing at one place changes nothing at
another. -/
theorem serveAll_isMap (root : Path) (requests : List Request) :
    (empty root).replyAll requests = answers root [] requests ∧
    (∀ p, ((empty root).serveAll requests).holds p = true ↔
      ∃ bytes, ((empty root).serveAll requests).read p = .ok bytes) ∧
    ∀ p q bytes, (((empty root).serveAll requests).add p bytes).read q =
      if root.locationFrom q = root.locationFrom p then .ok bytes
      else ((empty root).serveAll requests).read q := by
  have hshows := shows_serveAll root requests
  refine ⟨(Shows.start root).replyAll_eq requests, fun p => holds_iff_read, fun p q bytes => ?_⟩
  rw [(hshows.add p bytes).read_eq, hshows.read_eq, readAt_concat]

/-- Three spellings of one file, below a root that is not absolute. -/
example : ((empty ⟨"a/.."⟩).replyAll
    [.add ⟨"b/../../c.js"⟩ [1], .add ⟨".././c.js"⟩ [2], .read ⟨"../x//../c.js/"⟩]).getLast? =
      some (.read (.ok [2])) := by
  rfl

end StorySuite.FileTable
