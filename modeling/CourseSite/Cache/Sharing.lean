/-
  The storage behind the memory caches: every cache has a table of its buckets by name, and every
  bucket a table of its items by key.

  * `CacheMemory`: the tables, told apart by number; a clone of a cache is the same handle.
  * `BucketHandle`, `CacheMemory.openBucket`: a bucket that was opened; it is made the first time
    that its name is asked for.
  * `CacheMemory.get?`, `CacheMemory.set`: reading and storing through an open bucket.
-/
import CourseSite.Cache.Store
import CourseSite.Text.Dictionary

namespace CourseSite

/-- The buckets of every cache by name, and the items of every bucket by key. -/
structure CacheMemory where
  caches : List (Dictionary Nat)
  buckets : List (Dictionary CacheItem)

/-- A bucket that was opened, or one of the cache that keeps nothing. -/
inductive BucketHandle where
  | stored (number : Nat)
  | null
deriving DecidableEq

namespace CacheMemory

/-- The memory before any cache was made. -/
def empty : CacheMemory := ⟨[], []⟩

/-- A new memory cache. -/
def newCache (memory : CacheMemory) : CacheHandle × CacheMemory :=
  (.memory memory.caches.length, { memory with caches := memory.caches ++ [.empty] })

/-- The bucket of a name in a cache, if it was opened before. -/
def bucket? (memory : CacheMemory) (cache : Nat) (name : String) : Option Nat :=
  (memory.caches[cache]?).bind (Dictionary.get? · name)

/-- The memory with one more bucket, without items, under a name of a cache. -/
def addBucket (memory : CacheMemory) (cache : Nat) (name : String) : CacheMemory :=
  ⟨memory.caches.modify cache (Dictionary.insert name memory.buckets.length),
    memory.buckets ++ [.empty]⟩

/-- The bucket of a name, which is made if it was not opened before. -/
def openBucket (memory : CacheMemory) (cache : CacheHandle) (name : String) :
    BucketHandle × CacheMemory :=
  match cache with
  | .null => (.null, memory)
  | .memory number =>
    match memory.bucket? number name with
    | some bucket => (.stored bucket, memory)
    | none => (.stored memory.buckets.length, memory.addBucket number name)

/-- The item of a key in a bucket. -/
def item? (memory : CacheMemory) (bucket : Nat) (key : String) : Option CacheItem :=
  (memory.buckets[bucket]?).bind (Dictionary.get? · key)

/-- The bytes of a key, if they are there and the tag admits them. -/
def get? (memory : CacheMemory) (bucket : BucketHandle) (key tag : String) : Option ByteArray :=
  match bucket with
  | .null => none
  | .stored number =>
    match memory.item? number key with
    | none => none
    | some item => if tag = "" ∨ item.tag = tag then some item.data else none

/-- The memory after storing bytes under a tag; the latest bytes of a key count. -/
def set (memory : CacheMemory) (bucket : BucketHandle) (key tag : String) (data : ByteArray) :
    CacheMemory :=
  match bucket with
  | .null => memory
  | .stored number =>
    { memory with buckets := memory.buckets.modify number (Dictionary.insert key ⟨tag, data⟩) }

/-- The text of a key, if its bytes are there and are a text. -/
def getText? (memory : CacheMemory) (bucket : BucketHandle) (key tag : String) : Option String :=
  (memory.get? bucket key tag).bind String.fromUTF8?

/-- The memory after storing a text. -/
def setText (memory : CacheMemory) (bucket : BucketHandle) (key tag text : String) : CacheMemory :=
  memory.set bucket key tag text.toUTF8

end CacheMemory

end CourseSite
