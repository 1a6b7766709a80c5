/-
  Cached bytes under validity tags.

  * `CacheHandle`: one of any number of memory caches, told apart by number, or
    the cache that keeps nothing; equal handles share their contents.
  * `CacheStore`: the latest tag and bytes for every cache, bucket and key.
  * `CacheStore.get?`: the bytes if the tag asked for is empty or is the tag
    they were stored under.
-/

namespace CourseSite

/-- A cache. -/
inductive CacheHandle where
  | memory (number : Nat)
  | null
deriving DecidableEq

/-- Where a value is kept: the number of the cache, the bucket and the key. -/
structure CacheSlot where
  cache : Nat
  bucket : String
  key : String
deriving DecidableEq

/-- Bytes with the tag they were stored under. -/
structure CacheItem where
  tag : String
  data : ByteArray

/-- The items of all memory caches. -/
structure CacheStore where
  items : List (CacheSlot × CacheItem)

namespace CacheStore

/-- The store without items. -/
def empty : CacheStore := ⟨[]⟩

/-- Items with one slot set. -/
def putItem (slot : CacheSlot) (item : CacheItem) :
    List (CacheSlot × CacheItem) → List (CacheSlot × CacheItem)
  | [] => [(slot, item)]
  | (other, old) :: items =>
    if other = slot then (slot, item) :: items else (other, old) :: putItem slot item items

/-- The bytes of a key, if they are there and the tag admits them. -/
def get? (store : CacheStore) (cache : CacheHandle) (bucket key tag : String) :
    Option ByteArray :=
  match cache with
  | .null => none
  | .memory number =>
    match store.items.find? (·.1 = ⟨number, bucket, key⟩) with
    | none => none
    | some (_, item) => if tag = "" ∨ item.tag = tag then some item.data else none

/-- The store after storing bytes under a tag; the latest bytes of a key count. -/
def set (store : CacheStore) (cache : CacheHandle) (bucket key tag : String) (data : ByteArray) :
    CacheStore :=
  match cache with
  | .null => store
  | .memory number => ⟨putItem ⟨number, bucket, key⟩ ⟨tag, data⟩ store.items⟩

/-- The text of a key, if its bytes are there and are a text. -/
def getText? (store : CacheStore) (cache : CacheHandle) (bucket key tag : String) :
    Option String :=
  (store.get? cache bucket key tag).bind String.fromUTF8?

/-- The store after storing a text. -/
def setText (store : CacheStore) (cache : CacheHandle) (bucket key tag text : String) :
    CacheStore :=
  store.set cache bucket key tag text.toUTF8

end CacheStore

end CourseSite
