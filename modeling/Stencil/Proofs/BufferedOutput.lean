import Stencil.Proofs.SinkDelivery
import Mathlib.Tactic

/-!
# Output through a buffer

Bytes on their way out wait in a buffer until there are enough of them.  As long
as nothing is refused, the bytes that were passed on and those that still wait
are together all bytes that were written, whatever the capacity.  Behind a flush
that is not refused either, all of them have arrived.

Where there is always room nothing is refused.  A flush at the end then passes on
the whole text of a render, whether the render has failed or not.
-/

namespace Stencil

variable {ε : Type} {failure : ε} {capacity : ℕ}

namespace BoundedBytes

theorem written_of_write {state next : BoundedBytes} {bytes : ByteArray}
    (hwrite : state.write failure bytes = (next, none)) :
    next.written = state.written ++ bytes := by
  unfold write at hwrite
  split at hwrite
  next =>
    obtain ⟨rfl, -⟩ := Prod.mk.inj hwrite
    rfl
  next =>
    split at hwrite
    next =>
      obtain ⟨rfl, -⟩ := Prod.mk.inj hwrite
      rfl
    next => simp at hwrite

theorem write_of_room_eq_none (failure : ε) {state : BoundedBytes}
    (hroom : state.room = none) (bytes : ByteArray) :
    state.write failure bytes = (⟨state.written ++ bytes, none⟩, none) := by
  simp only [write, hroom]

end BoundedBytes

namespace BufferedBytes

variable {state next : BufferedBytes} {more : ByteArray}

/-- All bytes that were written, in order. -/
def bytes (state : BufferedBytes) : ByteArray :=
  state.passed.written ++ state.waiting

/-! ## Nothing refused -/

theorem flush_of_taken (hflush : state.flush failure = (next, none)) :
    next.passed.written = state.bytes ∧ next.waiting = .empty := by
  cases hpassed : state.passed.write failure state.waiting with
  | mk passed refused =>
      simp only [flush, hpassed] at hflush
      obtain ⟨rfl, rfl⟩ := Prod.mk.inj hflush
      have hwritten := BoundedBytes.written_of_write hpassed
      refine ⟨hwritten, ?_⟩
      simp only [hwritten, ByteArray.size_append, Nat.add_sub_cancel_left,
        ByteArray.extract_same]

/-- As many bytes as the buffer holds find nothing waiting before them. -/
theorem makeRoom_of_taken {size : ℕ}
    (hroom : state.makeRoom failure capacity size = (next, none)) :
    next.bytes = state.bytes ∧ (capacity ≤ size → next.waiting = .empty) := by
  unfold makeRoom at hroom
  split at hroom
  next =>
    obtain ⟨hwritten, hnone⟩ := flush_of_taken hroom
    refine ⟨?_, fun _ => hnone⟩
    rw [bytes, hwritten, hnone, ByteArray.append_empty]
  next hfits =>
    obtain ⟨rfl, -⟩ := Prod.mk.inj hroom
    refine ⟨rfl, fun hlarge => ByteArray.size_eq_zero_iff.mp ?_⟩
    omega

theorem bytes_of_write (hwrite : state.write failure capacity more = (next, none)) :
    next.bytes = state.bytes ++ more := by
  unfold write at hwrite
  split at hwrite
  next => simp at hwrite
  next roomy hroom =>
    obtain ⟨hbytes, hnone⟩ := makeRoom_of_taken hroom
    rw [← hbytes]
    split at hwrite
    next hlarge =>
      cases hpassed : roomy.passed.write failure more with
      | mk passed refused =>
          simp only [hpassed] at hwrite
          obtain ⟨rfl, rfl⟩ := Prod.mk.inj hwrite
          have hwritten := BoundedBytes.written_of_write hpassed
          simp only [bytes, hwritten, hnone hlarge, ByteArray.append_empty]
    next =>
      obtain ⟨rfl, -⟩ := Prod.mk.inj hwrite
      exact ByteArray.append_assoc.symm

/-! ## Always room -/

theorem flush_of_room_eq_none (failure : ε) (hroom : state.passed.room = none) :
    state.flush failure = (⟨⟨state.bytes, none⟩, .empty⟩, none) := by
  simp only [flush, BoundedBytes.write_of_room_eq_none failure hroom, ByteArray.size_append,
    Nat.add_sub_cancel_left, ByteArray.extract_same, bytes]

theorem exists_makeRoom_of_room_eq_none (failure : ε) (capacity : ℕ)
    (hroom : state.passed.room = none) (size : ℕ) :
    ∃ next, state.makeRoom failure capacity size = (next, none) ∧
      next.passed.room = none := by
  unfold makeRoom
  split
  · exact ⟨_, flush_of_room_eq_none failure hroom, rfl⟩
  · exact ⟨state, rfl, hroom⟩

theorem exists_write_of_room_eq_none (failure : ε) (capacity : ℕ)
    (hroom : state.passed.room = none) (more : ByteArray) :
    ∃ next, state.write failure capacity more = (next, none) ∧
      next.passed.room = none := by
  obtain ⟨roomy, hmade, hstill⟩ :=
    exists_makeRoom_of_room_eq_none failure capacity hroom more.size
  simp only [write, hmade]
  split
  · exact ⟨_, by rw [BoundedBytes.write_of_room_eq_none failure hstill], rfl⟩
  · exact ⟨_, rfl, hstill⟩

end BufferedBytes

/-! ## Chunks and renders -/

namespace Sink

variable {state taken : BufferedBytes} {chunks : List String}

theorem bytes_of_takes
    (htakes : (Sink.buffered failure capacity).Takes state chunks taken) :
    taken.bytes = state.bytes ++ (String.join chunks).toUTF8 := by
  induction htakes with
  | nil output => simp
  | cons haccept hrest ih =>
      rw [ih, BufferedBytes.bytes_of_write haccept, ByteArray.append_assoc,
        String.join_cons]
      simp [String.toByteArray_append]

theorem exists_takes_of_room_eq_none (failure : ε) (capacity : ℕ)
    (hroom : state.passed.room = none) (chunks : List String) :
    ∃ taken, (Sink.buffered failure capacity).Takes state chunks taken ∧
      taken.passed.room = none := by
  induction chunks generalizing state with
  | nil => exact ⟨state, .nil state, hroom⟩
  | cons chunk rest ih =>
      obtain ⟨next, hwrite, hstill⟩ :=
        BufferedBytes.exists_write_of_room_eq_none failure capacity hroom chunk.toUTF8
      obtain ⟨taken, htakes, hlast⟩ := ih hstill
      exact ⟨taken, .cons hwrite htakes, hlast⟩

end Sink

namespace Template

variable (template : Template) (data : Value)

/-- Where there is always room, all that the render delivers arrives, and the
render fails as it does without a buffer. -/
theorem render_buffered (failure : ε) (capacity : ℕ) :
    let outcome := template.render (.buffered failure capacity) data (.empty none)
    let delivered := String.join (template.program.rendering data).chunks
    outcome.output.flush failure = (⟨⟨delivered.toUTF8, none⟩, .empty⟩, none) ∧
      outcome.failure = (template.program.rendering data).failure none := by
  intro outcome delivered
  have hempty : (BufferedBytes.empty none).passed.room = none := rfl
  obtain ⟨taken, htakes, hroom⟩ := Sink.exists_takes_of_room_eq_none failure capacity
    hempty (template.program.rendering data).chunks
  obtain ⟨houtput, hfailure⟩ :=
    (template.render_follows _ data _).result_of_offer (Sink.offer_eq_of_takes htakes)
  have hbytes : taken.bytes = delivered.toUTF8 := by
    rw [Sink.bytes_of_takes htakes]
    exact ByteArray.empty_append
  refine ⟨?_, hfailure⟩
  rw [show outcome.output = taken from houtput,
    BufferedBytes.flush_of_room_eq_none failure hroom, hbytes]

/-- Whatever room there is, a render and a flush without a failure have written
the whole text. -/
theorem written_of_render_buffered {room : Option ℕ} {flushed : BufferedBytes}
    {outcome : Outcome BufferedBytes ε}
    (hrender : template.render (.buffered failure capacity) data (.empty room) =
      outcome)
    (hfailure : outcome.failure = none)
    (hflush : outcome.output.flush failure = (flushed, none)) :
    (template.program.rendering data).undefinedName = none ∧
      flushed.passed.written =
        (String.join (template.program.rendering data).chunks).toUTF8 := by
  subst hrender
  have hfollows := template.render_follows (.buffered failure capacity) data
    (.empty room)
  cases hoffer : (Sink.buffered failure capacity).offer (.empty room)
      (template.program.rendering data).chunks with
  | mk taken refused =>
      obtain ⟨houtput, hresult⟩ := hfollows.result_of_offer hoffer
      rw [hfailure] at hresult
      cases refused with
      | some cause => simp [Rendering.failure] at hresult
      | none =>
          have hbytes := Sink.bytes_of_takes (Sink.takes_of_offer hoffer)
          rw [houtput] at hflush
          obtain ⟨hwritten, -⟩ := BufferedBytes.flush_of_taken hflush
          refine ⟨by simpa [Rendering.failure] using hresult.symm, ?_⟩
          rw [hwritten, hbytes]
          exact ByteArray.empty_append

end Template

end Stencil
