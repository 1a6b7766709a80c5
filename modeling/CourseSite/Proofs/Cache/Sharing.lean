/-
  Caches that are reached through clones and through buckets that are opened again and again.

  * `bucket?_addBucket`, `item?_set`: what the operations leave in the two levels of tables.
  * `Operation`, `Client`: what can be done, and the caches and open buckets that are at hand.
  * `Record`: what a history says: at which cache and name each bucket was opened, and what was
    stored there, in order.
  * `Keeps`, `Reflects`: the tables hold just that; every operation keeps it so
    (`Reflects.step`), and so does every history (`reflects_runAll`).
  * `get?_runAll`: what comes back is what was stored last at the same cache, name and key.
  * `get?_eq_get?_flatten`: the same as from one flat table of all that was stored.
-/
import CourseSite.Cache.Sharing
import CourseSite.Proofs.Cache.Store
import CourseSite.Proofs.Log
import CourseSite.Proofs.Text.Dictionary
import Mathlib.Data.List.Forall2

namespace CourseSite.CacheMemory

open Log (Last last_concat_iff not_last_nil)

variable {memory : CacheMemory} {cache cache' bucket bucket' : ℕ}
  {name name' key key' tag tag' : String} {data : ByteArray} {item : CacheItem}

/-! ## The tables -/

theorem bucket?_newCache : memory.newCache.2.bucket? cache name = memory.bucket? cache name := by
  rw [newCache, bucket?, bucket?]
  rcases Nat.lt_trichotomy cache memory.caches.length with hlt | rfl | hgt
  · rw [List.getElem?_append_left hlt]
  · simp [Dictionary.get?, Dictionary.empty]
  · rw [List.getElem?_eq_none (List.length_append ▸ hgt), List.getElem?_eq_none (Nat.le_of_lt hgt)]

theorem bucket?_addBucket (h : cache < memory.caches.length) :
    (memory.addBucket cache name).bucket? cache' name' =
      if cache' = cache ∧ name' = name then some memory.buckets.length
      else memory.bucket? cache' name' := by
  rw [addBucket, bucket?, bucket?, List.getElem?_modify]
  by_cases hcache : cache = cache'
  · subst hcache
    rw [List.getElem?_eq_getElem h]
    simp [Dictionary.get?_insert, eq_comm]
  · simp [hcache, Ne.symm hcache]

theorem item?_addBucket : (memory.addBucket cache name).item? bucket key = memory.item? bucket key := by
  rw [addBucket, item?, item?]
  rcases Nat.lt_trichotomy bucket memory.buckets.length with hlt | rfl | hgt
  · rw [List.getElem?_append_left hlt]
  · simp [Dictionary.get?, Dictionary.empty]
  · rw [List.getElem?_eq_none (List.length_append ▸ hgt), List.getElem?_eq_none (Nat.le_of_lt hgt)]

theorem item?_eq_none (h : memory.buckets.length ≤ bucket) : memory.item? bucket key = none := by
  rw [item?, List.getElem?_eq_none h, Option.bind_none]

theorem item?_set (h : bucket < memory.buckets.length) :
    (memory.set (.stored bucket) key tag data).item? bucket' key' =
      if bucket' = bucket ∧ key' = key then some ⟨tag, data⟩ else memory.item? bucket' key' := by
  rw [set, item?, item?, List.getElem?_modify]
  by_cases hbucket : bucket = bucket'
  · subst hbucket
    rw [List.getElem?_eq_getElem h]
    simp [Dictionary.get?_insert, eq_comm]
  · simp [hbucket, Ne.symm hbucket]

/-! ## Histories -/

/-- What can be done.  Caches and open buckets are numbered in the order in which they come to hand. -/
inductive Operation where
  | newCache
  | nullCache
  | clone (cache : ℕ)
  | openBucket (cache : ℕ) (name : String)
  | set (bucket : ℕ) (key tag : String) (data : ByteArray)
  | setText (bucket : ℕ) (key tag text : String)
  | get (bucket : ℕ) (key tag : String)
  | getText (bucket : ℕ) (key tag : String)

/-- The storage, and the caches and open buckets at hand. -/
structure Client where
  memory : CacheMemory
  caches : List CacheHandle
  buckets : List BucketHandle

/-- The client behind an operation.  Reading leaves everything as it is. -/
def Operation.run (client : Client) : Operation → Client
  | .newCache =>
    { client with memory := client.memory.newCache.2,
                  caches := client.caches ++ [client.memory.newCache.1] }
  | .nullCache => { client with caches := client.caches ++ [.null] }
  | .clone cache => { client with caches := client.caches ++ client.caches[cache]?.toList }
  | .openBucket cache name =>
    match client.caches[cache]? with
    | none => client
    | some cache =>
      { client with memory := (client.memory.openBucket cache name).2,
                    buckets := client.buckets ++ [(client.memory.openBucket cache name).1] }
  | .set bucket key tag data =>
    match client.buckets[bucket]? with
    | none => client
    | some bucket => { client with memory := client.memory.set bucket key tag data }
  | .setText bucket key tag text =>
    match client.buckets[bucket]? with
    | none => client
    | some bucket => { client with memory := client.memory.setText bucket key tag text }
  | .get .. | .getText .. => client

/-- The client behind a history. -/
def runAll (operations : List Operation) : Client :=
  operations.foldl Operation.run ⟨empty, [], []⟩

/-- The bytes that an open bucket gives for a key. -/
def Client.get? (client : Client) (bucket : ℕ) (key tag : String) : Option ByteArray :=
  client.buckets[bucket]?.bind (client.memory.get? · key tag)

/-- The text that an open bucket gives for a key. -/
def Client.getText? (client : Client) (bucket : ℕ) (key tag : String) : Option String :=
  client.buckets[bucket]?.bind (client.memory.getText? · key tag)

/-! ### What a history says -/

/-- The cache and the name at which a bucket was opened. -/
structure Place where
  cache : CacheHandle
  name : String
deriving DecidableEq

/-- Bytes that were stored at a key. -/
structure Write where
  place : Place
  key : String
  item : CacheItem

/-- The write was at the place and the key. -/
def Write.IsAt (place : Place) (key : String) (write : Write) : Prop :=
  write.place = place ∧ write.key = key

/-- What was done: how many memory caches were made, which cache each cache at hand is, where each
    bucket was opened, and what was stored. -/
structure Record where
  made : ℕ
  caches : List CacheHandle
  places : List Place
  writes : List Write

/-- The record with one more operation.  A clone is the cache that it was made from. -/
def Operation.note (record : Record) : Operation → Record
  | .newCache =>
    { record with made := record.made + 1, caches := record.caches ++ [.memory record.made] }
  | .nullCache => { record with caches := record.caches ++ [.null] }
  | .clone cache => { record with caches := record.caches ++ record.caches[cache]?.toList }
  | .openBucket cache name =>
    { record with places := record.places ++ (record.caches[cache]?.map (⟨·, name⟩)).toList }
  | .set bucket key tag data =>
    { record with writes := record.writes ++
        (record.places[bucket]?.map (⟨·, key, ⟨tag, data⟩⟩)).toList }
  | .setText bucket key tag text =>
    { record with writes := record.writes ++
        (record.places[bucket]?.map (⟨·, key, ⟨tag, text.toUTF8⟩⟩)).toList }
  | .get .. | .getText .. => record

/-- The record of a history. -/
def noteAll (operations : List Operation) : Record :=
  operations.foldl Operation.note ⟨0, [], [], []⟩

theorem runAll_concat (operations : List Operation) (operation : Operation) :
    runAll (operations ++ [operation]) = operation.run (runAll operations) := by
  rw [runAll, runAll, List.foldl_append, List.foldl_cons, List.foldl_nil]

theorem noteAll_concat (operations : List Operation) (operation : Operation) :
    noteAll (operations ++ [operation]) = operation.note (noteAll operations) := by
  rw [noteAll, noteAll, List.foldl_append, List.foldl_cons, List.foldl_nil]

/-! ## The tables and what was stored -/

/-- The bucket is the one of the place. -/
inductive Holds (memory : CacheMemory) : Place → BucketHandle → Prop
  | null {name : String} : Holds memory ⟨.null, name⟩ .null
  | stored {cache bucket : ℕ} {name : String} : memory.bucket? cache name = some bucket →
      Holds memory ⟨.memory cache, name⟩ (.stored bucket)

/-- Every place has a bucket of its own, with the last item that was stored there at each key. -/
structure Keeps (memory : CacheMemory) (writes : List Write) : Prop where
  lt_length : ∀ {cache name bucket}, memory.bucket? cache name = some bucket →
    bucket < memory.buckets.length
  unique : ∀ {cache name cache' name' bucket}, memory.bucket? cache name = some bucket →
    memory.bucket? cache' name' = some bucket → cache = cache' ∧ name = name'
  item_iff : ∀ {cache name bucket}, memory.bucket? cache name = some bucket → ∀ key item,
    memory.item? bucket key = some item ↔
      ∃ write, Last (Write.IsAt ⟨.memory cache, name⟩ key) writes write ∧ write.item = item
  opened : ∀ write ∈ writes, ∀ cache name, write.place = ⟨.memory cache, name⟩ →
    ∃ bucket, memory.bucket? cache name = some bucket

namespace Keeps

variable {writes : List Write}

theorem empty : Keeps .empty [] where
  lt_length h := by cases h
  unique h := by cases h
  item_iff h := by cases h
  opened write h := by cases h

theorem newCache (h : Keeps memory writes) : Keeps memory.newCache.2 writes where
  lt_length hbucket := h.lt_length (bucket?_newCache ▸ hbucket)
  unique hbucket hbucket' := h.unique (bucket?_newCache ▸ hbucket) (bucket?_newCache ▸ hbucket')
  item_iff hbucket := h.item_iff (bucket?_newCache ▸ hbucket)
  opened write hwrite cache name hplace := by
    rw [bucket?_newCache]
    exact h.opened write hwrite cache name hplace

/-- Nothing was stored at a place that had no bucket, and nothing is there in its new one. -/
theorem addBucket (h : Keeps memory writes) (hcache : cache < memory.caches.length)
    (hnone : memory.bucket? cache name = none) : Keeps (memory.addBucket cache name) writes where
  lt_length hbucket := by
    rw [bucket?_addBucket hcache] at hbucket
    rw [CacheMemory.addBucket, List.length_append]
    split at hbucket
    · cases hbucket
      exact Nat.lt_succ_self _
    · exact Nat.lt_succ_of_lt (h.lt_length hbucket)
  unique hbucket hbucket' := by
    rw [bucket?_addBucket hcache] at hbucket hbucket'
    split at hbucket <;> split at hbucket'
    · simp_all
    · cases hbucket
      exact absurd (h.lt_length hbucket') (Nat.lt_irrefl _)
    · cases hbucket'
      exact absurd (h.lt_length hbucket) (Nat.lt_irrefl _)
    · exact h.unique hbucket hbucket'
  item_iff hbucket key item := by
    rw [bucket?_addBucket hcache] at hbucket
    rw [item?_addBucket]
    split at hbucket
    · rename_i hplace
      obtain ⟨rfl, rfl⟩ := hplace
      cases hbucket
      rw [item?_eq_none (Nat.le_refl _)]
      refine ⟨nofun, fun ⟨write, hlast, _⟩ => ?_⟩
      obtain ⟨bucket, hbucket⟩ := h.opened write hlast.mem _ _ hlast.holds.1
      rw [hnone] at hbucket
      cases hbucket
    · exact h.item_iff hbucket key item
  opened write hwrite cache' name' hplace := by
    rw [bucket?_addBucket hcache]
    split
    · exact ⟨_, rfl⟩
    · exact h.opened write hwrite cache' name' hplace

/-- Storing at the bucket of a place changes one key of that bucket, and of no other place. -/
theorem set (h : Keeps memory writes) (hbucket : memory.bucket? cache name = some bucket)
    (key tag : String) (data : ByteArray) :
    Keeps (memory.set (.stored bucket) key tag data)
      (writes ++ [⟨⟨.memory cache, name⟩, key, ⟨tag, data⟩⟩]) where
  lt_length hbucket' := by
    rw [CacheMemory.set, List.length_modify]
    exact h.lt_length hbucket'
  unique := h.unique
  item_iff {cache' name' bucket'} (hbucket' : memory.bucket? cache' name' = some bucket') key' item := by
    have hplace : bucket' = bucket ∧ key' = key ↔ Write.IsAt ⟨.memory cache', name'⟩ key'
        ⟨⟨.memory cache, name⟩, key, ⟨tag, data⟩⟩ := by
      constructor
      · rintro ⟨rfl, rfl⟩
        obtain ⟨rfl, rfl⟩ := h.unique hbucket hbucket'
        exact ⟨rfl, rfl⟩
      · rintro ⟨heq, rfl⟩
        cases heq
        rw [hbucket] at hbucket'
        cases hbucket'
        exact ⟨rfl, rfl⟩
    rw [item?_set (h.lt_length hbucket)]
    simp only [last_concat_iff]
    by_cases hat : Write.IsAt ⟨.memory cache', name'⟩ key' ⟨⟨.memory cache, name⟩, key, ⟨tag, data⟩⟩
    · simp [if_pos (hplace.2 hat), hat]
    · simpa [if_neg (mt hplace.1 hat), hat] using h.item_iff hbucket' key' item
  opened write hwrite cache' name' hplace := by
    rcases List.mem_append.1 hwrite with hwrite | hwrite
    · exact h.opened write hwrite cache' name' hplace
    · rw [List.mem_singleton.1 hwrite] at hplace
      cases hplace
      exact ⟨bucket, hbucket⟩

/-- What was stored at no memory cache is not there. -/
theorem note_null (h : Keeps memory writes) (name key : String) (item : CacheItem) :
    Keeps memory (writes ++ [⟨⟨.null, name⟩, key, item⟩]) where
  lt_length := h.lt_length
  unique := h.unique
  item_iff hbucket key' item' := by
    rw [h.item_iff hbucket]
    simp [last_concat_iff, Write.IsAt]
  opened write hwrite cache name hplace := by
    rcases List.mem_append.1 hwrite with hwrite | hwrite
    · exact h.opened write hwrite cache name hplace
    · rw [List.mem_singleton.1 hwrite] at hplace
      cases hplace

end Keeps

/-- The caches and open buckets at hand are those of the record. -/
structure Reflects (client : Client) (record : Record) : Prop where
  keeps : Keeps client.memory record.writes
  made : client.memory.caches.length = record.made
  caches : client.caches = record.caches
  lt_made : ∀ cache, .memory cache ∈ record.caches → cache < record.made
  buckets : List.Forall₂ (Holds client.memory) record.places client.buckets

/-- A bucket stays the one of its place while the names keep their buckets. -/
theorem Holds.mono {memory' : CacheMemory} {place : Place} {handle : BucketHandle}
    (hkept : ∀ cache name bucket, memory.bucket? cache name = some bucket →
      memory'.bucket? cache name = some bucket) (h : Holds memory place handle) :
    Holds memory' place handle := by
  cases h with
  | null => exact .null
  | stored hbucket => exact .stored (hkept _ _ _ hbucket)

theorem Holds.set {place : Place} {handle : BucketHandle} (h : Holds memory place handle) :
    Holds (memory.set (.stored bucket) key tag data) place handle := by
  cases h with
  | null => exact .null
  | stored hbucket => exact .stored hbucket

/-- A bucket that is opened is the one of the cache and the name. -/
theorem holds_openBucket {handle : CacheHandle}
    (h : ∀ cache, handle = .memory cache → cache < memory.caches.length) (name : String) :
    Holds (memory.openBucket handle name).2 ⟨handle, name⟩ (memory.openBucket handle name).1 := by
  cases handle with
  | null => exact .null
  | memory cache =>
    rw [openBucket]
    cases hbucket : memory.bucket? cache name with
    | some bucket => exact .stored hbucket
    | none => exact .stored (by rw [bucket?_addBucket (h cache rfl), if_pos ⟨rfl, rfl⟩])

theorem bucket?_openBucket_of_some {handle : CacheHandle}
    (h : ∀ cache, handle = .memory cache → cache < memory.caches.length) (name : String)
    {bucket : ℕ} (hbucket : memory.bucket? cache name' = some bucket) :
    (memory.openBucket handle name).2.bucket? cache name' = some bucket := by
  cases handle with
  | null => exact hbucket
  | memory cache =>
    rw [openBucket]
    cases hnone : memory.bucket? cache name with
    | some => exact hbucket
    | none =>
      rw [bucket?_addBucket (h cache rfl), if_neg, hbucket]
      rintro ⟨rfl, rfl⟩
      rw [hnone] at hbucket
      cases hbucket

theorem length_caches_openBucket {handle : CacheHandle} :
    (memory.openBucket handle name).2.caches.length = memory.caches.length := by
  cases handle with
  | null => rfl
  | memory cache =>
    rw [openBucket]
    cases memory.bucket? cache name with
    | some => rfl
    | none => exact List.length_modify ..

theorem Keeps.openBucket {handle : CacheHandle} {writes : List Write} (hkeeps : Keeps memory writes)
    (h : ∀ cache, handle = .memory cache → cache < memory.caches.length) (name : String) :
    Keeps (memory.openBucket handle name).2 writes := by
  cases handle with
  | null => exact hkeeps
  | memory cache =>
    rw [CacheMemory.openBucket]
    cases hnone : memory.bucket? cache name with
    | some => exact hkeeps
    | none => exact hkeeps.addBucket (h cache rfl) hnone

namespace Reflects

variable {client : Client} {record : Record}

theorem start : Reflects ⟨.empty, [], []⟩ ⟨0, [], [], []⟩ where
  keeps := .empty
  made := rfl
  caches := rfl
  lt_made cache h := by cases h
  buckets := .nil

theorem newCache (h : Reflects client record) :
    Reflects (Operation.newCache.run client) (Operation.newCache.note record) where
  keeps := h.keeps.newCache
  made := by
    show (client.memory.caches ++ [_]).length = _
    rw [List.length_append, h.made]
    rfl
  caches := by
    show client.caches ++ [.memory client.memory.caches.length] = _
    rw [h.caches, h.made]
    rfl
  lt_made cache hcache := by
    rcases List.mem_append.1 hcache with hcache | hcache
    · exact Nat.lt_succ_of_lt (h.lt_made cache hcache)
    · cases List.mem_singleton.1 hcache
      exact Nat.lt_succ_self _
  buckets := h.buckets.imp fun _ _ => Holds.mono fun _ _ _ hbucket => bucket?_newCache.trans hbucket

/-- A cache that is known already may come to hand again. -/
theorem addCaches (h : Reflects client record) {caches : List CacheHandle}
    (hcaches : ∀ cache ∈ caches, cache ≠ .null → cache ∈ record.caches) :
    Reflects { client with caches := client.caches ++ caches }
      { record with caches := record.caches ++ caches } where
  keeps := h.keeps
  made := h.made
  caches := by rw [h.caches]
  lt_made cache hcache := by
    rcases List.mem_append.1 hcache with hcache | hcache
    · exact h.lt_made cache hcache
    · exact h.lt_made cache (hcaches _ hcache nofun)
  buckets := h.buckets

theorem openBucket (h : Reflects client record) (cache : ℕ) (name : String) :
    Reflects ((Operation.openBucket cache name).run client)
      ((Operation.openBucket cache name).note record) := by
  have hlookup : client.caches[cache]? = record.caches[cache]? := by rw [h.caches]
  simp only [Operation.run, Operation.note, hlookup]
  cases hhandle : record.caches[cache]? with
  | none => simpa using h
  | some handle =>
    have hmade (cache : ℕ) (heq : handle = .memory cache) : cache < client.memory.caches.length := by
      rw [h.made]
      exact h.lt_made cache (heq ▸ List.mem_of_getElem? hhandle)
    exact {
      keeps := h.keeps.openBucket hmade name
      made := length_caches_openBucket.trans h.made
      caches := h.caches
      lt_made := h.lt_made
      buckets := List.rel_append
        (h.buckets.imp fun _ _ => Holds.mono fun _ _ _ => bucket?_openBucket_of_some hmade name)
        (.cons (holds_openBucket hmade name) .nil) }

/-- A bucket that was opened is at hand, and is the one of its place. -/
theorem handle (h : Reflects client record) (bucket : ℕ) :
    (record.places[bucket]? = none ∧ client.buckets[bucket]? = none) ∨
      ∃ place handle, record.places[bucket]? = some place ∧ client.buckets[bucket]? = some handle ∧
        Holds client.memory place handle := by
  have hlength := h.buckets.length_eq
  by_cases hlt : bucket < record.places.length
  · have hlt' : bucket < client.buckets.length := hlength ▸ hlt
    exact .inr ⟨_, _, List.getElem?_eq_getElem hlt, List.getElem?_eq_getElem hlt',
      h.buckets.get hlt hlt'⟩
  · exact .inl ⟨List.getElem?_eq_none (Nat.le_of_not_lt hlt),
      List.getElem?_eq_none (hlength ▸ Nat.le_of_not_lt hlt)⟩

/-- Storing through an open bucket, which may be one of no cache. -/
theorem set (h : Reflects client record) (bucket : ℕ) (key tag : String) (data : ByteArray) :
    Reflects ((Operation.set bucket key tag data).run client)
      ((Operation.set bucket key tag data).note record) := by
  rcases h.handle bucket with ⟨hplace, hhandle⟩ | ⟨place, handle, hplace, hhandle, hholds⟩
  · simpa only [Operation.run, Operation.note, hplace, hhandle, Option.map_none,
      Option.toList_none, List.append_nil] using h
  · simp only [Operation.run, Operation.note, hplace, hhandle]
    cases hholds with
    | null => exact { h with keeps := h.keeps.note_null _ _ _ }
    | stored hbucket =>
      exact { h with
        keeps := h.keeps.set hbucket key tag data
        buckets := h.buckets.imp fun _ _ => Holds.set }

/-- **One operation** keeps the tables and the record together. -/
theorem step (h : Reflects client record) (operation : Operation) :
    Reflects (operation.run client) (operation.note record) := by
  cases operation with
  | newCache => exact h.newCache
  | nullCache =>
    refine h.addCaches fun cache hcache hne => ?_
    exact absurd (List.mem_singleton.1 hcache) hne
  | clone cache =>
    have hlookup : client.caches[cache]? = record.caches[cache]? := by rw [h.caches]
    simp only [Operation.run, Operation.note, hlookup]
    refine h.addCaches fun handle hhandle _ => ?_
    exact List.mem_of_getElem? (Option.mem_toList.1 hhandle)
  | openBucket cache name => exact h.openBucket cache name
  | set bucket key tag data => exact h.set bucket key tag data
  | setText bucket key tag text => exact h.set bucket key tag text.toUTF8
  | get | getText => exact h

end Reflects

/-- **Every history** keeps the tables and the record together. -/
theorem reflects_runAll (operations : List Operation) :
    Reflects (runAll operations) (noteAll operations) := by
  induction operations using List.reverseRecOn with
  | nil => exact .start
  | append_singleton operations operation ih =>
    rw [runAll_concat, noteAll_concat]
    exact ih.step operation

/-! ## What comes back -/

theorem get?_stored : memory.get? (.stored bucket) key tag =
    (memory.item? bucket key).bind fun item =>
      if tag = "" ∨ item.tag = tag then some item.data else none := by
  rw [get?]
  cases memory.item? bucket key <;> rfl

/-- An open bucket gives the bytes that were stored last at its place, if the tag admits them. -/
theorem Keeps.get?_eq_some_iff {writes : List Write} {place : Place} {handle : BucketHandle}
    (h : Keeps memory writes) (hholds : Holds memory place handle) :
    memory.get? handle key tag = some data ↔ place.cache ≠ .null ∧
      ∃ write, Last (Write.IsAt place key) writes write ∧
        (tag = "" ∨ write.item.tag = tag) ∧ write.item.data = data := by
  cases hholds with
  | null => exact ⟨nofun, fun hnull => absurd rfl hnull.1⟩
  | stored hbucket =>
    simp only [get?_stored, Option.bind_eq_some_iff, h.item_iff hbucket, ne_eq, reduceCtorEq,
      not_false_eq_true, true_and, Option.ite_none_right_eq_some, Option.some.injEq]
    constructor
    · rintro ⟨-, ⟨write, hlast, rfl⟩, hdata⟩
      exact ⟨write, hlast, hdata⟩
    · rintro ⟨write, hlast, hdata⟩
      exact ⟨_, ⟨write, hlast, rfl⟩, hdata⟩

theorem Client.get?_eq_some_iff {client : Client} {record : Record} (h : Reflects client record) :
    client.get? bucket key tag = some data ↔
      ∃ place, record.places[bucket]? = some place ∧ place.cache ≠ .null ∧
        ∃ write, Last (Write.IsAt place key) record.writes write ∧
          (tag = "" ∨ write.item.tag = tag) ∧ write.item.data = data := by
  rw [Client.get?]
  rcases h.handle bucket with ⟨hplace, hhandle⟩ | ⟨place, handle, hplace, hhandle, hholds⟩
  · simp [hplace, hhandle]
  · simp only [hplace, hhandle, Option.bind_some, Option.some.injEq, exists_eq_left',
      h.keeps.get?_eq_some_iff hholds]

theorem Client.getText?_eq_bind (client : Client) :
    client.getText? bucket key tag = (client.get? bucket key tag).bind String.fromUTF8? := by
  rw [Client.getText?, Client.get?]
  cases client.buckets[bucket]? <;> rfl

theorem fromUTF8?_eq_some_iff {text : String} :
    String.fromUTF8? data = some text ↔ data = text.toUTF8 := by
  constructor
  · intro h
    rw [String.fromUTF8?] at h
    split at h
    · cases h
      rfl
    · cases h
  · rintro rfl
    exact CacheStore.fromUTF8?_toUTF8 text

/-- **What comes back from the caches**, whatever was done before and through whichever clones and
    open buckets.  A bucket of a memory cache gives the bytes that were stored last at the same
    cache, name and key, if the tag asked for is empty or theirs; nothing else comes back, and
    nothing from the cache that keeps nothing.  A text comes back if the bytes are one, and so does
    each text that was just stored there under the tag asked for. -/
theorem get?_runAll (operations : List Operation) (bucket : ℕ) (key tag : String) :
    (∀ data, (runAll operations).get? bucket key tag = some data ↔
      ∃ place, (noteAll operations).places[bucket]? = some place ∧ place.cache ≠ .null ∧
        ∃ write, Last (Write.IsAt place key) (noteAll operations).writes write ∧
          (tag = "" ∨ write.item.tag = tag) ∧ write.item.data = data) ∧
    (∀ text, (runAll operations).getText? bucket key tag = some text ↔
      (runAll operations).get? bucket key tag = some text.toUTF8) ∧
    ∀ place other text, (noteAll operations).places[bucket]? = some place → place.cache ≠ .null →
      (noteAll operations).places[other]? = some place →
      (runAll (operations ++ [.setText other key tag text])).getText? bucket key tag = some text := by
  have hreflects := reflects_runAll
  have htext (operations : List Operation) (text : String) :
      (runAll operations).getText? bucket key tag = some text ↔
        (runAll operations).get? bucket key tag = some text.toUTF8 := by
    simp only [Client.getText?_eq_bind, Option.bind_eq_some_iff, fromUTF8?_eq_some_iff,
      exists_eq_right]
  refine ⟨fun data => Client.get?_eq_some_iff (hreflects operations), htext operations,
    fun place other text hplace hcache hother => ?_⟩
  have hnote : noteAll (operations ++ [.setText other key tag text]) =
      { noteAll operations with writes := (noteAll operations).writes ++
          [⟨place, key, ⟨tag, text.toUTF8⟩⟩] } := by
    simp only [noteAll_concat, Operation.note, hother, Option.map_some, Option.toList_some]
  rw [htext, Client.get?_eq_some_iff (hreflects _), hnote]
  exact ⟨place, hplace, hcache, _, last_concat_iff.2 (.inl ⟨⟨rfl, rfl⟩, rfl⟩), .inr rfl, rfl⟩

/-- A text stored through a bucket of a cache comes back through that bucket of a clone. -/
theorem get?_runAll_clone :
    (runAll ([.newCache, .clone 0, .openBucket 0 "pages", .openBucket 1 "pages"] ++
      [.setText 0 "/intro" "v1" "héllo"])).getText? 1 "/intro" "v1" = some "héllo" :=
  (get?_runAll [.newCache, .clone 0, .openBucket 0 "pages", .openBucket 1 "pages"] 1 "/intro"
    "v1").2.2 ⟨.memory 0, "pages"⟩ 0 "héllo" rfl nofun rfl

/-! ### The flat table -/

/-- All that was stored, in one flat table. -/
def flatten (writes : List Write) : CacheStore :=
  writes.foldl (fun store write => store.set write.place.cache write.place.name write.key
    write.item.tag write.item.data) .empty

theorem get?_flatten_eq_some_iff {place : Place} {writes : List Write} :
    (flatten writes).get? place.cache place.name key tag = some data ↔ place.cache ≠ .null ∧
      ∃ write, Last (Write.IsAt place key) writes write ∧
        (tag = "" ∨ write.item.tag = tag) ∧ write.item.data = data := by
  induction writes using List.reverseRecOn with
  | nil =>
    obtain ⟨_ | _, name⟩ := place <;> simp [flatten, CacheStore.get?, CacheStore.empty, not_last_nil]
  | append_singleton writes last ih =>
    have hset : flatten (writes ++ [last]) = (flatten writes).set last.place.cache last.place.name
        last.key last.item.tag last.item.data := by
      rw [flatten, flatten, List.foldl_append, List.foldl_cons, List.foldl_nil]
    have hat : last.place.cache ≠ .null ∧ place.cache = last.place.cache ∧
        place.name = last.place.name ∧ key = last.key ↔
          place.cache ≠ .null ∧ Write.IsAt place key last := by
      obtain ⟨⟨cache, name⟩, key', item⟩ := last
      obtain ⟨cache', name'⟩ := place
      simp only [Write.IsAt, Place.mk.injEq]
      constructor
      · rintro ⟨hnull, rfl, rfl, rfl⟩
        exact ⟨hnull, ⟨rfl, rfl⟩, rfl⟩
      · rintro ⟨hnull, ⟨rfl, rfl⟩, rfl⟩
        exact ⟨hnull, rfl, rfl, rfl⟩
    rw [hset, CacheStore.get?_set]
    simp only [last_concat_iff]
    by_cases hlast : place.cache ≠ .null ∧ Write.IsAt place key last
    · rw [if_pos (hat.2 hlast)]
      simp [hlast.1, hlast.2]
    · rw [if_neg (mt hat.1 hlast), ih]
      refine and_congr_right fun hnull => ?_
      have hlast : ¬ Write.IsAt place key last := fun hat => hlast ⟨hnull, hat⟩
      simp [hlast]

/-- **The two levels of tables are one flat table**: an open bucket gives what the flat table of all
    that was stored gives at its place. -/
theorem get?_eq_get?_flatten {operations : List Operation} {place : Place}
    (h : (noteAll operations).places[bucket]? = some place) :
    (runAll operations).get? bucket key tag =
      (flatten (noteAll operations).writes).get? place.cache place.name key tag := by
  ext data
  rw [get?_flatten_eq_some_iff, Client.get?_eq_some_iff (reflects_runAll operations), h]
  simp

end CourseSite.CacheMemory
