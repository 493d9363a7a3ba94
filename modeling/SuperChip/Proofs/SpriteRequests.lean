import SuperChip.Proofs.StampedPixels
import SuperChip.Proofs.Step

/-!
# Many sprites on one plane

Sprites are drawn one after the other, each at a position of its own and from an index of
its own, and they may overlap, leave the rectangle on one side and come in on the other,
or not lie in memory at all.  The order does not matter, and two sprites that are the same
erase each other, wherever they stand among the others.

## Strategy

A sprite toggles pixels, and which ones depends on memory and on the resolution, both of
which drawing leaves alone (`exists_drawRequest_eq`).  So a list of sprites toggles a list of
places (`plane_drawAll`), and a pixel is another one afterwards if its place is on that
list an odd number of times.  Everything is then about the parity of a count
(`plane_drawAll_eq_of_parity`): neither shape nor bytes come into it, and a sprite may meet
a pixel twice.
-/

namespace SuperChip

/-! ## Places that are toggled -/

namespace Plane

variable (plane : Plane)

theorem fst_toggleAll_append (hit hit' hit'' : Bool) (front behind : List Nat) :
    (plane.toggleAll hit (front ++ behind)).1 =
      ((plane.toggleAll hit' front).1.toggleAll hit'' behind).1 := by
  have hlit : ∀ (plane : Plane) (hit hit' : Bool) (places : List Nat),
      (plane.toggleAll hit places).1 = (plane.toggleAll hit' places).1 := by
    intro plane hit hit' places
    induction places generalizing plane hit hit' with
    | nil => rfl
    | cons place rest ih => exact ih _ _ _
  induction front generalizing plane hit hit' with
  | nil => exact hlit plane hit hit'' behind
  | cons place rest ih => exact ih _ _ _

/-- A plane is known by its old pixels and by which places are toggled an odd number of
times. -/
theorem fst_toggleAll_eq_of_parity (hit hit' : Bool) {places others : List Nat}
    (hplaces : ∀ place ∈ places, place < 8192) (hothers : ∀ place ∈ others, place < 8192)
    (hparity : ∀ place, places.count place % 2 = others.count place % 2) :
    (plane.toggleAll hit places).1 = (plane.toggleAll hit' others).1 := by
  apply eq_of_pixel
  intro x y _ _
  rw [pixel_toggleAll plane hit hplaces, pixel_toggleAll plane hit' hothers, hparity]

end Plane

/-! ## Requests -/

/-- A sprite to be drawn: its position, its shape, and the index of its first byte. -/
structure SpriteRequest where
  x : Nat
  y : Nat
  shape : SpriteShape
  index : Int
  deriving DecidableEq, Repr

namespace SpriteRequest

/-- The sprite reaches beyond memory. -/
def Overruns (request : SpriteRequest) : Prop :=
  (Memory.size : Int) < request.index + request.shape.size

instance (request : SpriteRequest) : Decidable request.Overruns :=
  inferInstanceAs (Decidable (_ < _))

/-- The bytes that are drawn, none if they cannot be read. -/
def bytes (request : SpriteRequest) (memory : Memory) : List UInt8 :=
  if request.Overruns then []
  else match memory.readIndices request.index request.shape.size with
    | .ok sprite => sprite
    | .error _ => []

/-- The places that are toggled, one after the other. -/
def places (resolution : Resolution) (memory : Memory) (request : SpriteRequest) : List Nat :=
  (litOffsets request.shape.rowBytes 0 (request.bytes memory)).map fun offset =>
    Plane.position resolution (request.x + offset.1) (request.y + offset.2)

variable {resolution : Resolution} {memory : Memory}

theorem places_of_overruns {request : SpriteRequest} (h : request.Overruns) :
    request.places resolution memory = [] := by
  rw [places, bytes, if_pos h]
  rfl

theorem lt_of_mem_flatMap_places {requests : List SpriteRequest} {place : Nat}
    (h : place ∈ requests.flatMap (places resolution memory)) : place < 8192 := by
  obtain ⟨request, -, hplace⟩ := List.mem_flatMap.mp h
  obtain ⟨offset, -, rfl⟩ := List.mem_map.mp hplace
  exact Plane.position_lt resolution _ _

theorem flatMap_places_filter (requests : List SpriteRequest) :
    (requests.filter fun request => ¬ request.Overruns).flatMap (places resolution memory) =
      requests.flatMap (places resolution memory) := by
  induction requests with
  | nil => rfl
  | cons request rest ih =>
      rw [List.flatMap_cons, ← ih, List.filter_cons]
      by_cases hoverruns : request.Overruns
      · rw [if_neg (by simpa using hoverruns), places_of_overruns hoverruns, List.nil_append]
      · rw [if_pos (by simpa using hoverruns), List.flatMap_cons]

end SpriteRequest

namespace Machine

variable (m : Machine)

/-- Draw the sprite of a request, for which the index register is set. -/
def drawRequest (request : SpriteRequest) : Effect :=
  stamp { m with i := request.index } request.x request.y request.shape

/-- The machine after requests are met one after the other. -/
def drawAll (m : Machine) : List SpriteRequest → Machine
  | [] => m
  | request :: rest => (m.drawRequest request).machine.drawAll rest

/-- Drawing a sprite toggles the places of the request for it. -/
theorem exists_stamp_eq_toggleAll (x y : Nat) (shape : SpriteShape) :
    let request : SpriteRequest := ⟨x, y, shape, m.i⟩
    ∃ v, (m.stamp x y shape).machine = { m with
      v := v
      plane := (m.plane.toggleAll false (request.places m.resolution m.memory)).1 } := by
  intro request
  rw [stamp, SpriteRequest.places, SpriteRequest.bytes]
  -- a sprite that does not lie in memory has no places
  by_cases hoverruns : request.Overruns
  · have hbeyond : (Memory.size : Int) < m.i + shape.size := hoverruns
    rw [if_pos hoverruns, if_pos hbeyond]
    exact ⟨m.v, rfl⟩
  · have hinside : ¬ (Memory.size : Int) < m.i + shape.size := hoverruns
    rw [if_neg hoverruns, if_neg hinside]
    cases m.memory.readIndices m.i shape.size with
    | error fault => exact ⟨m.v, rfl⟩
    | ok sprite =>
        dsimp only [Effect.machine]
        split
        · exact ⟨_, rfl⟩
        · exact ⟨_, rfl⟩

/-- Neither memory nor the resolution is another one after a request. -/
theorem exists_drawRequest_eq (request : SpriteRequest) :
    ∃ v, (m.drawRequest request).machine = { m with
      i := request.index
      v := v
      plane := (m.plane.toggleAll false (request.places m.resolution m.memory)).1 } :=
  exists_stamp_eq_toggleAll { m with i := request.index } request.x request.y request.shape

theorem stamp_completes (hindex : 0 ≤ m.i) (x y : Nat) (shape : SpriteShape) :
    (m.stamp x y shape).EndsIn fun _ => True := by
  rw [stamp]
  split
  · trivial
  · rename_i hinside
    rw [m.memory.readIndices_eq_readAll shape.size (by omega)
      (by simp only [Memory.size] at hinside; omega)]
    trivial

theorem plane_drawAll (requests : List SpriteRequest) :
    (m.drawAll requests).plane = (m.plane.toggleAll false
      (requests.flatMap (SpriteRequest.places m.resolution m.memory))).1 := by
  induction requests generalizing m with
  | nil => rfl
  | cons request rest ih =>
      obtain ⟨v, hfirst⟩ := m.exists_drawRequest_eq request
      rw [drawAll, ih, hfirst, List.flatMap_cons]
      exact (m.plane.fst_toggleAll_append false false false _ _).symm

/-- Two lists of requests that toggle each place an odd number of times, or both an even
number of times, make the same plane. -/
theorem plane_drawAll_eq_of_parity {requests others : List SpriteRequest}
    (hparity : ∀ place,
      (requests.flatMap (SpriteRequest.places m.resolution m.memory)).count place % 2 =
        (others.flatMap (SpriteRequest.places m.resolution m.memory)).count place % 2) :
    (m.drawAll requests).plane = (m.drawAll others).plane := by
  rw [plane_drawAll, plane_drawAll]
  exact m.plane.fst_toggleAll_eq_of_parity false false
    (fun _ => SpriteRequest.lt_of_mem_flatMap_places)
    (fun _ => SpriteRequest.lt_of_mem_flatMap_places) hparity

theorem plane_drawAll_of_perm {requests others : List SpriteRequest}
    (h : requests.Perm others) : (m.drawAll requests).plane = (m.drawAll others).plane := by
  apply plane_drawAll_eq_of_parity
  intro place
  rw [(h.flatMap_right _).count_eq]

/-- What is drawn a second time is as if it had not been drawn. -/
theorem plane_drawAll_of_pair (request : SpriteRequest)
    (front middle behind : List SpriteRequest) :
    (m.drawAll (front ++ request :: middle ++ request :: behind)).plane =
      (m.drawAll (front ++ middle ++ behind)).plane := by
  apply plane_drawAll_eq_of_parity
  intro place
  -- a place that the sprite toggles is counted twice as often
  simp only [List.flatMap_append, List.flatMap_cons, List.count_append]
  omega

/-- **Drawing is exclusive or.**  Sprites of any shapes are drawn at any positions and from
any indices, one after the other.  The plane is the same whatever their order; a sprite
that reaches beyond memory adds nothing to it; and two requests that are the same can both
be left out, so that drawing a sprite twice gives the old plane back.  No request from an
address has a fault. -/
theorem drawing_is_exclusive_or (requests : List SpriteRequest) :
    (∀ others, requests.Perm others →
      (m.drawAll requests).plane = (m.drawAll others).plane) ∧
    (m.drawAll requests).plane =
      (m.drawAll (requests.filter fun request => ¬ request.Overruns)).plane ∧
    (∀ request front middle behind,
      requests = front ++ request :: middle ++ request :: behind →
        (m.drawAll requests).plane = (m.drawAll (front ++ middle ++ behind)).plane) ∧
    (∀ request, (m.drawAll [request, request]).plane = m.plane) ∧
    (∀ request : SpriteRequest, 0 ≤ request.index →
      (m.drawRequest request).EndsIn fun _ => True) := by
  refine ⟨?_, ?_, ?_, ?_, ?_⟩
  · intro others hperm
    exact m.plane_drawAll_of_perm hperm
  · rw [plane_drawAll, plane_drawAll, SpriteRequest.flatMap_places_filter]
  · rintro request front middle behind rfl
    exact m.plane_drawAll_of_pair request front middle behind
  -- a request drawn twice is a pair with nothing between
  · intro request
    exact m.plane_drawAll_of_pair request [] [] []
  · intro request hindex
    exact stamp_completes { m with i := request.index } hindex _ _ _

/-- A glyph across the corner of the small rectangle, a large sprite over it, a sprite that
reaches beyond memory, and the glyph again.  Only the large sprite is left. -/
theorem drawing_is_exclusive_or_of_overlapping :
    let m : Machine := { Machine.fresh with memory := Memory.zeroed.writeAll 0 [0xF0, 0x90, 0x90] }
    let glyph : SpriteRequest := ⟨62, 30, ⟨1, 5⟩, 0⟩
    let large : SpriteRequest := ⟨60, 20, ⟨2, 16⟩, 1⟩
    let beyond : SpriteRequest := ⟨0, 0, ⟨1, 2⟩, 4095⟩
    let requests := [glyph, large, beyond, glyph]
    requests.Perm requests.reverse ∧
      (m.drawAll requests).plane = (m.drawAll requests.reverse).plane ∧
      (m.drawAll requests).plane = (m.drawAll [large, beyond]).plane ∧
      (m.drawAll [large, beyond]).plane = (m.drawAll [large]).plane ∧
      (m.drawAll [large]).plane.pixel 60 20 = 1 ∧
      (m.drawRequest glyph).EndsIn fun _ => True := by
  intro m glyph large beyond requests
  have hperm : requests.Perm requests.reverse := (List.reverse_perm requests).symm
  obtain ⟨horder, -, hpairs, -, hcompletes⟩ := drawing_is_exclusive_or m requests
  obtain ⟨-, hbeyond, -⟩ := drawing_is_exclusive_or m [large, beyond]
  refine ⟨hperm, horder _ hperm, ?_, hbeyond, ?_, hcompletes glyph (by decide)⟩
  · exact hpairs glyph [] [large, beyond] [] rfl
  · rw [plane_drawAll]
    decide +kernel

end Machine

end SuperChip
