import Mathlib.Data.List.Basic

/-!
# JSON documents and dotted keys

A config document is a JSON value, and a dotted key names a path into it. Object keys are any text,
dots included, so that the text of a path need not name the path itself.
-/

namespace Hypercolor.ConfigKeys

open List

lemma lookup_eq_none_of_not_mem {V : Type} {es : List (String × V)} {key : String}
    (h : key ∉ es.map Prod.fst) : es.lookup key = none := by
  rw [lookup_eq_none_iff]
  rintro ⟨o, value⟩ hm
  exact bne_iff_ne.mpr fun he => h (mem_map.mpr ⟨_, hm, he.symm⟩)

/-- `serde_json::Value`: a JSON value; `N` stands for the numbers. -/
inductive Json (N : Type) where
  | null
  | bool (b : Bool)
  | number (n : N)
  | string (s : String)
  | array (items : List (Json N))
  | object (entries : List (String × Json N))

namespace Json

variable {N : Type}

def isObject : Json N → Bool
  | object _ => true
  | _ => false

/-- `Value::get`, at a key -/
def get (doc : Json N) (key : String) : Option (Json N) :=
  match doc with
  | object entries => entries.lookup key
  | _ => none

/-- The value at a key, where what is missing counts as `null`. -/
def child (doc : Json N) (key : String) : Json N := (doc.get key).getD null

mutual

/-- `Value::eq`: the order of the entries of an object does not matter. -/
def same [BEq N] : Json N → Json N → Bool
  | null, null => true
  | bool a, bool b => a == b
  | number a, number b => a == b
  | string a, string b => a == b
  | array a, array b => sameItems a b
  | object a, object b => a.length == b.length && sameEntries a b
  | _, _ => false

def sameItems [BEq N] : List (Json N) → List (Json N) → Bool
  | [], [] => true
  | a :: as, b :: bs => same a b && sameItems as bs
  | _, _ => false

def sameEntries [BEq N] : List (String × Json N) → List (String × Json N) → Bool
  | [], _ => true
  | (key, a) :: rest, others =>
    (match others.lookup key with
      | some b => same a b
      | none => false) && sameEntries rest others

end

end Json

/-! ## Dotted keys -/

/-- `path.join(".")` -/
def joinDots (path : List String) : String :=
  String.ofList (['.'].intercalate (path.map String.toList))

/-- `key.split('.')` -/
def splitDots (key : String) : List String := (key.toList.splitOn '.').map String.ofList

/-- `is_valid_key` -/
def isValidKey (key : String) : Bool := key ≠ "" && (splitDots key).all (· ≠ "")

/-- `lookup`, `get_json_path` -/
def Json.lookup {N : Type} (doc : Json N) (key : String) : Option (Json N) :=
  (splitDots key).foldlM Json.get doc

lemma splitDots_ne_nil (key : String) : splitDots key ≠ [] := by
  intro h
  exact splitOn_ne_nil '.' key.toList (map_eq_nil_iff.mp h)

/-- A path of segments without dots is read back from its text. -/
lemma splitDots_joinDots {pt : List String} (hp : pt ≠ [])
    (hd : ∀ sg ∈ pt, '.' ∉ sg.toList) : splitDots (joinDots pt) = pt := by
  rw [splitDots, joinDots, String.toList_ofList, splitOn_intercalate]
  · rw [map_map]
    exact (map_congr_left fun sg _ => String.ofList_toList).trans (map_id pt)
  · intro sg hm
    obtain ⟨original, hor, rfl⟩ := mem_map.mp hm
    exact hd original hor
  · exact fun h => hp (map_eq_nil_iff.mp h)

/-- A dotted key is its segments, joined. -/
lemma joinDots_splitDots (key : String) : joinDots (splitDots key) = key := by
  rw [joinDots, splitDots, map_map]
  rw [show String.toList ∘ String.ofList = id from funext fun _ => String.toList_ofList, map_id,
    intercalate_splitOn, String.ofList_toList]

end Hypercolor.ConfigKeys
