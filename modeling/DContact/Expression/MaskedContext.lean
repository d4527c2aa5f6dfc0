import DContact.Lib.JsonObject

/-!
# The masked context of an expression trace

Every sensitive path is followed through the own properties of objects, and what it ends at is
replaced. Masking an object masks each of its properties by itself, with what is left of the paths
below it, so overlapping paths can be taken in any order.
-/

namespace DContact.Expression

open Lib List

abbrev Path : Type := List String

def mask : Json := .str "[MASKED]"

/-- One pass of the loop: what is no object has nothing below it, and a missing property is not
added. -/
def maskPath : Path → Json → Json
  | name :: rest, .obj fields =>
      .obj (fields.map fun entry =>
        if entry.1 = name then
          (entry.1, if rest = [] then mask else maskPath rest entry.2)
        else entry)
  | _, value => value

def maskContext (context : Json) (sensitivePaths : List Path) : Json :=
  sensitivePaths.foldl (fun masked path => maskPath path masked) context

/-- What a path leads to. -/
def resolve : Path → Json → Option Json
  | [], value => some value
  | name :: rest, value => (value.get? name).bind (resolve rest)

/-- What is left of a path below a property. -/
def after (name : String) : Path → Option Path
  | [] => none
  | first :: rest => if first = name then some rest else none

def below (name : String) (paths : List Path) : List Path := paths.filterMap (after name)

variable {paths : List Path} {path rest : Path} {name : String} {value : Json}
  {fields : List (String × Json)}

/-- What becomes of a property. -/
def maskEntry (paths : List Path) (name : String) (value : Json) : Json :=
  if [name] ∈ paths then mask else maskContext value (below name paths)

theorem maskContext_scalar (scalar : ∀ fields, value ≠ .obj fields) :
    maskContext value paths = value := by
  induction paths with
  | nil => rfl
  | cons path rest ih =>
      have same : maskPath path value = value := by
        cases path with
        | nil => rfl
        | cons name rest =>
            cases value with
            | obj fields => exact absurd rfl (scalar fields)
            | _ => rfl
      rw [maskContext, foldl_cons, same]
      exact ih

theorem maskEntry_mask : maskEntry paths name mask = mask := by
  unfold maskEntry
  split
  · rfl
  · exact maskContext_scalar fun _ same => by cases same

theorem maskEntry_cons (first : String) : maskEntry ((first :: rest) :: paths) name value =
    maskEntry paths name (if name = first then (if rest = [] then mask else maskPath rest value)
      else value) := by
  by_cases same : name = first
  · subst same
    by_cases last : rest = []
    · subst last
      rw [if_pos rfl, if_pos rfl, maskEntry_mask]
      exact if_pos mem_cons_self
    · simp [maskEntry, below, after, maskContext, last]
  · simp [maskEntry, below, after, same, Ne.symm same]

theorem maskContext_obj : maskContext (.obj fields) paths =
    .obj (fields.map fun entry => (entry.1, maskEntry paths entry.1 entry.2)) := by
  induction paths generalizing fields with
  | nil => simp [maskContext, maskEntry, below]
  | cons path others ih =>
      rw [maskContext, foldl_cons]
      cases path with
      | nil => exact ih.trans (by simp [maskEntry, below, filterMap_cons, after])
      | cons first rest =>
          refine ih.trans ?_
          rw [map_map]
          refine congrArg Json.obj (map_congr_left fun entry _ => ?_)
          rw [maskEntry_cons]
          by_cases same : entry.1 = first <;> simp [same]

/-- Contexts that are the same but for what is at the listed paths or below them. Both or neither
have something there. -/
inductive AgreeApart : List Path → Json → Json → Prop
  | same {paths : List Path} (value : Json) : AgreeApart paths value value
  | obj {paths : List Path} (entries : List (String × Json × Json))
      (values : ∀ entry ∈ entries, [entry.1] ∉ paths →
        AgreeApart (below entry.1 paths) entry.2.1 entry.2.2) :
      AgreeApart paths (.obj (entries.map fun entry => (entry.1, entry.2.1)))
        (.obj (entries.map fun entry => (entry.1, entry.2.2)))

theorem AgreeApart.masked {left right : Json} (agree : AgreeApart paths left right) :
    maskContext left paths = maskContext right paths := by
  induction agree with
  | same => rfl
  | @obj paths entries values ih =>
      rw [maskContext_obj, maskContext_obj, map_map, map_map]
      refine congrArg Json.obj (map_congr_left fun entry mem => ?_)
      refine Prod.ext rfl ?_
      by_cases listed : [entry.1] ∈ paths
      · simp [maskEntry, listed]
      · simpa [maskEntry, listed] using ih entry mem listed

end DContact.Expression
