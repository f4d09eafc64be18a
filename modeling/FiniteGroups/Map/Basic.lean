import FiniteGroups.Group.Candidate

/-!
# Maps between groups

A map sends each element of a group to some value. Whether it respects the operations is a
question to ask (`GroupMap.isHom`) and not part of the type; neither need the values be elements
of the target.

* `GroupMap.ofSending`, `GroupMap.ofGens`, `GroupMap.identity` : the ways to give a map;
* `extendMap` : the map of products that images of generators lead to;
* `GroupMap.kernel`, `GroupMap.image` and the questions about them;
* `GroupMap.value`, `GroupMap.ofValue?` : a map as a value, and back.

Composition and inversion are products of values, since maps may be elements of groups
(`Value.composeMaps`, `Value.inverseMap`).
-/

namespace FiniteGroups

/-- A value for each element of a group. -/
structure GroupMap where
  src : FiniteGroup
  tgt : FiniteGroup
  send : Assignment Value Value

/-! ## From generators -/

/-- Sends the entries of one sequence to those of another, place by place. No generator may be
sent to two places. -/
def assignEach (gens images : Value) (n : Nat) : Except Fault (Assignment Value Value) :=
  (List.range n).foldlM (fun sent i => do
    let g ← (← gens.item (Value.ofNat i)).keyed
    let h ← images.item (Value.ofNat i)
    match sent.get? g with
    | some h' =>
      if ← h'.equal h then return sent.set g h else throw (.conflictingImages (← g.plain))
    | none => return sent.set g h) .empty

/-- The map that sends generators to images and products to products. -/
def extendMap (gens images : Value) (mul₁ mul₂ : Value → Value → Except Fault Value) :
    Report (Assignment Value Value) := do
  let n ← gens.length
  let m ← images.length
  if n = m then
    let sent ← assignEach gens images n
    closeMap sent
      { mul₁, mul₂, key := Value.keyed, agree := Value.equal, label := Value.plain }
  else throw (.generatorCount n m)

namespace GroupMap

/-! ## Maps and values -/

/-- A map as a value. -/
def value (f : GroupMap) : Value :=
  .map f.src.value f.tgt.value (Value.ofAssignment f.send) .none

/-- The map that a value is. -/
def ofValue? : Value → Option GroupMap
  | .map src tgt send _ => do
    return ⟨← FiniteGroup.ofValue? src, ← FiniteGroup.ofValue? tgt, send.assignment⟩
  | _ => none

/-! ## Making maps -/

/-- The map that a function describes. -/
def ofFunction (src tgt : FiniteGroup) (f : Value → Except Fault Value) :
    Except Fault GroupMap := do
  let pairs ← src.els.mapM fun g => do
    let h ← f g
    return (← g.keyed, h)
  return ⟨src, tgt, .ofList pairs⟩

/-- The map that an assignment describes, which must send every element somewhere. -/
def ofAssignment (src tgt : FiniteGroup) (send : Assignment Value Value) :
    Except Fault GroupMap := do
  return ⟨src, tgt, .ofList (← Value.tabulate src.els send)⟩

/-- The map that a mapping or a function describes. -/
def ofSending (src tgt : Candidate) (send : Value) : Except Fault GroupMap := do
  let G ← src.demanded
  let H ← tgt.demanded
  match send with
  | .mapping .. => ofAssignment G H send.assignment
  | send =>
    let meaning := send.meaning
    ofFunction G H fun g => meaning.call [g]

/-- The map of a group to itself that moves nothing. -/
def identity (G : Candidate) : Except Fault GroupMap := do
  let els ← (← G.entries).mapM Value.keyed
  let G ← G.demanded
  ofAssignment G G (.ofList (els.map fun g => (g, g)))

/-- The map that sends generators to images and products to products. -/
def ofGens (src tgt : Candidate) (gens images : Value) : Except Fault GroupMap := do
  let gs ← gens.entries
  let hs ← images.entries
  let mul₁ ← src.mul
  let mul₂ ← tgt.mul
  let sent ← (extendMap (.list 0 gs) (.list 0 hs) mul₁ mul₂).outcome
  let e ← src.identity
  let e' ← tgt.identity
  let sent := if sent.keys.contains (← e.keyed) then sent else sent.set e e'
  if sent.size = (← src.size) then ofAssignment (← src.demanded) (← tgt.demanded) sent
  else throw (.tooFewGenerators (← gens.length) (← src.value.plain))

/-! ## Homomorphisms -/

/-- The image of an element. -/
def apply (f : GroupMap) (g : Value) : Except Fault Value := do
  match f.send.get? (← g.keyed) with
  | some h => return h
  | none => throw .missingKey

/-- Whether the product of two elements is sent to the product of their images. -/
def respects (f : GroupMap) (g h : Value) : Except Fault Bool := do
  let image ← f.apply (← f.src.mul g h)
  image.equal (← f.tgt.mul (← f.apply g) (← f.apply h))

/-- Whether the identity is sent to the identity and products to products. -/
def isHom (f : GroupMap) : Except Fault Bool := do
  if ← (← f.apply f.src.identity).equal f.tgt.identity then
    f.src.els.allM fun g => f.src.els.allM fun h => f.respects g h
  else return false

/-- The subgroup spanned by the elements that are sent to the identity. -/
def kernel (f : GroupMap) : Except Fault FiniteGroup := do
  f.src.span (← f.src.els.filterM fun g => do (← f.apply g).equal f.tgt.identity)

/-- The subgroup of the target spanned by the images. -/
def image (f : GroupMap) : Except Fault FiniteGroup := do
  f.tgt.span (← Value.distinct f.send.values.toList).toList

/-- Whether the kernel is trivial. -/
def isInjective (f : GroupMap) : Except Fault Bool := do return (← f.kernel).order == 1

/-- Whether the image is everything. -/
def isSurjective (f : GroupMap) : Except Fault Bool := do
  return (← f.image).order == f.tgt.order

/-- Whether the kernel is trivial and the image everything. -/
def isIso (f : GroupMap) : Except Fault Bool := do
  if ← f.isInjective then f.isSurjective else return false

/-- The common order of the source modulo the kernel and of the image. -/
def firstIso (f : GroupMap) : Except Fault Nat := do
  let n := f.src.order / (← f.kernel).order
  let m := (← f.image).order
  if n = m then return n else throw (.isomorphismMismatch n m)

end GroupMap

end FiniteGroups
