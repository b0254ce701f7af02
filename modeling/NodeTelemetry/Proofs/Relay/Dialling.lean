/-
# Relays that can be dialled

An address is accepted if it is read as a URL with a host, and it is kept as it is written.
Reading puts right what is written loosely, while dialling refuses it: a blank in the path,
a backslash for a slash, a domain in other letters than ASCII, a bracket in front of an at
sign. So an address may be accepted once and for all, and no stream is ever opened to it.
What follows tells those addresses from the others.
-/

import NodeTelemetry.Relay.Endpoint
import NodeTelemetry.Proofs.Url.Dialling

namespace NodeTelemetry.Relay.Endpoint

variable {address : String} {endpoint : Endpoint}

/-- An endpoint is written in parts that are each spelled in characters that may stand there. -/
def IsStrict (endpoint : Endpoint) : Prop :=
  endpoint.text.utf8ByteSize ≤ Url.longestUrl ∧
    ∃ layout : Url.Layout, endpoint.text.toList = layout.text ∧ layout.Fits ∧ layout.Strict

/-- What is accepted is read as a URL with a host. -/
theorem exists_read_of_ofAddress (accepted : ofAddress address = .ok endpoint) :
    ∃ url, Url.read endpoint.text = .ok url ∧ url.host.isSome := by
  unfold ofAddress at accepted
  extract_lets trimmed at accepted
  generalize withScheme trimmed = text at accepted
  split at accepted
  · cases accepted
  · rename_i url reads
    split at accepted
    · cases accepted
    · rename_i hosted
      cases accepted
      exact ⟨url, reads, Option.isSome_iff_ne_none.mpr fun none => hosted (none ▸ rfl)⟩

/-- An endpoint that was accepted is refused whenever a stream is opened, whoever answers, if
and only if it is not written strictly. -/
theorem dialFault?_eq_notDialable_iff (accepted : ofAddress address = .ok endpoint)
    (answers : String → Bool) :
    endpoint.dialFault? answers = some .notDialable ↔ ¬endpoint.IsStrict := by
  obtain ⟨url, reads, hosted⟩ := exists_read_of_ofAddress accepted
  have dialable : Url.isDialable endpoint.text = true ↔ endpoint.IsStrict :=
    Url.isDialable_iff_strict reads hosted
  unfold dialFault?
  rw [← dialable]
  split
  · simp_all
  · split <;> simp_all

/-- Somebody may ask, and the host may be an address in brackets. -/
theorem isStrict_agent :
    ofAddress " agent:secret@[fe80::1]:50051 " = .ok ⟨"http://agent:secret@[fe80::1]:50051"⟩ ∧
      IsStrict ⟨"http://agent:secret@[fe80::1]:50051"⟩ := by
  have accepted : ofAddress " agent:secret@[fe80::1]:50051 " =
      .ok ⟨"http://agent:secret@[fe80::1]:50051"⟩ := eq_ok_of_toOption (by decide +kernel)
  refine ⟨accepted, by_contra fun lax => ?_⟩
  have refused := (dialFault?_eq_notDialable_iff accepted fun _ => true).mpr lax
  revert refused
  decide +kernel

/-- A blank in the path is accepted, but it cannot be dialled. -/
theorem accepted_notDialable :
    ¬∀ (address : String) (endpoint : Endpoint), ofAddress address = .ok endpoint →
      ∀ answers, endpoint.dialFault? answers ≠ some .notDialable := by
  intro dialled
  have accepted : ofAddress "http://127.0.0.1:1/a b" = .ok ⟨"http://127.0.0.1:1/a b"⟩ :=
    eq_ok_of_toOption (by decide +kernel)
  exact dialled _ _ accepted (fun _ => false) (by decide +kernel)

end NodeTelemetry.Relay.Endpoint
