import RecordPrint.Record.Unfolding

/-!
# Normal form

The normal form of a value: all indirection, records, containers, members, times and paths unfolded
into a tree whose leaves are what no unfolding applies to. An object that is reached again while it is
being unfolded is a circular reference; one that is merely shared is unfolded at each occurrence. The
walk goes as deep as the objects do: the recursion limit of an interpreter is left out.
-/

namespace RecordPrint

namespace Value

/-- The walk to the normal form of a value, inside of the objects at the places `active`. -/
def normalizeWithin (σ : Store) (schema : Schema) (active : List Nat) (v : Value) :
    Walk active (Tree Value) :=
  match v with
  | ref target => normalizeWithin σ schema active target
  | member _ _ _ content => normalizeWithin σ schema active content
  | timestamp t => .still active ((t.iso (.char 'T')).map fun s => .leaf (text s))
  | date d => .still active (.ok (.leaf (text d.iso)))
  | clock t => .still active (t.iso.map fun s => .leaf (text s))
  | path p => .still active (.ok (.leaf (text p.text)))
  | object place =>
    if _inside : place < σ.size then
      if _new : place ∈ active then .still active (.error .circular)
      else
        .enter place <|
          match v.unfold σ schema σ[place] with
          | .error f => .still _ (.error f)
          | .ok .atomic => .still _ (.ok (.leaf v))
          | .ok (.cells cs) => .still _ (.ok (.object (putEntries [] (cs.map fun c => (c.1, .leaf c.2)))))
          | .ok (.standIn w) => normalizeWithin σ schema (place :: active) w
          | .ok (.items vs) =>
            (Walk.each (fun s _same w => normalizeWithin σ schema s w) vs (place :: active) rfl).map .array
          | .ok (.entries es) =>
            (Walk.each (fun s _same => Walk.entry fun w => normalizeWithin σ schema s w) es
              (place :: active) rfl).map fun pairs => .object (putEntries [] pairs)
    else .still active (.ok (.leaf v))
  | v => .still active (.ok (.leaf v))
termination_by (unopened σ active, sizeOf v)
decreasing_by
  · exact Prod.Lex.right _ (by simp only [Value.ref.sizeOf_spec]; omega)
  · exact Prod.Lex.right _ (by simp only [Value.member.sizeOf_spec]; omega)
  · exact Prod.Lex.left _ _ (unopened_cons_lt _inside _new)
  all_goals exact Prod.Lex.left _ _ (_same ▸ unopened_cons_lt _inside _new)

/-- The normal form of a value. -/
def normalize (σ : Store) (schema : Schema) (v : Value) : Except Fault (Tree Value) :=
  (v.normalizeWithin σ schema []).outcome

end Value

end RecordPrint
