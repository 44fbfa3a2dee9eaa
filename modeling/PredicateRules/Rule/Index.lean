import PredicateRules.Rule.Basic

/-!
Rules by key. Of one key the rules stand by descending priority, and of equal priority the one
declared later stands first.
-/

namespace PredicateRules

structure RuleIndex where
  buckets : List (String × List Rule)

namespace RuleIndex

/-- Puts a rule behind those of lower or equal priority. -/
def insertAscending (bucket : List Rule) (rule : Rule) : List Rule :=
  bucket.takeWhile (fun other => other.priority ≤ rule.priority) ++
    rule :: bucket.dropWhile fun other => other.priority ≤ rule.priority

theorem insertAscending_perm (bucket : List Rule) (rule : Rule) :
    (insertAscending bucket rule).Perm (rule :: bucket) := by
  have whole := List.takeWhile_append_dropWhile (l := bucket)
    (p := fun other => decide (other.priority ≤ rule.priority))
  have moved : (insertAscending bucket rule).Perm (rule :: (_ ++ _)) := List.perm_middle
  rwa [whole] at moved

theorem foldl_insertAscending_perm (rules bucket : List Rule) :
    (rules.foldl insertAscending bucket).Perm (rules ++ bucket) := by
  induction rules generalizing bucket with
  | nil => exact .refl _
  | cons rule rules ruleAdded =>
    have inserted := (insertAscending_perm bucket rule).append_left rules
    exact ((ruleAdded _).trans inserted).trans List.perm_middle

def bucketOf (rules : List Rule) : List Rule := (rules.foldl insertAscending []).reverse

theorem bucketOf_perm (rules : List Rule) : (bucketOf rules).Perm rules := by
  have added := foldl_insertAscending_perm rules []
  rw [List.append_nil] at added
  exact (List.reverse_perm _).trans added

def keysOf (rules : List Rule) : List String := (rules.map Rule.key).eraseDups

def build (rules : List Rule) : RuleIndex :=
  ⟨(keysOf rules).map fun key => (key, bucketOf (rules.filter fun rule => rule.key == key))⟩

def candidates? (index : RuleIndex) (key : String) : Option (List Rule) := index.buckets.lookup key

def keys (index : RuleIndex) : List String := index.buckets.map Prod.fst

def sortedKeys (index : RuleIndex) : List String := index.keys.mergeSort fun key other => key ≤ other

def size (index : RuleIndex) : Nat :=
  index.buckets.foldl (fun total bucket => total + bucket.2.length) 0

def isEmpty (index : RuleIndex) : Bool := index.buckets.isEmpty

end RuleIndex

end PredicateRules
