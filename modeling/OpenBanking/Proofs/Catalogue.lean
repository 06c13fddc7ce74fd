import OpenBanking.Catalogue
import OpenBanking.Proofs.Lossless.Message

/-!
# No form loses anything

What holds of every lossless type holds of every form of the catalogue, by the name under which
refusals call it. The values of all forms nest nine levels deep at most. A part of a list takes two
levels more than its items, so parts of lists, and parts of lists of such parts, are read as well
until the levels are used up that a reader goes down.
-/

namespace OpenBanking

open Json

namespace Form

/-- The form of parts of lists whose items have a form. -/
def paged (form : Form) : Form :=
  letI : Wire form.Carrier := ⟨form.codec⟩
  letI := form.equal
  given ("PagedList" ++ form.name) (PagedList form.Carrier)

/-- All values of a form are read back where arrays and objects may nest so deep. -/
def ReadsBack (form : Form) (depth : Nat) : Prop := ∀ x, form.codec.ReadsBack depth x

variable {depth : Nat}

/-- A form of a lossless type in which each value has to be given is read back. -/
@[simp]
theorem readsBack_given (name : String) (α : Type) [Wire α] [DecidableEq α] [Lossless depth α] :
    (given name α).ReadsBack depth := fun x : α => Lossless.readsBack x

/-- A form of a lossless type with a value where none is given is read back. -/
@[simp]
theorem readsBack_filled (name : String) (α : Type) [Wire α] [DecidableEq α] [Inhabited α]
    [Lossless depth α] : (filled name α).ReadsBack depth := fun x : α => Lossless.readsBack x

variable {form : Form}

/-- Parts of lists are read back on two levels more than their items. -/
theorem ReadsBack.paged (readsBack : form.ReadsBack depth) :
    form.paged.ReadsBack (depth + 2) := by
  let _ : Wire form.Carrier := ⟨form.codec⟩
  have : Lossless depth form.Carrier := ⟨readsBack⟩
  exact fun x : PagedList form.Carrier => Lossless.readsBack x

/-- So are parts of lists within one another, on two levels more for each of them. -/
theorem ReadsBack.repeat_paged (readsBack : form.ReadsBack depth) (count : Nat) :
    (Nat.repeat Form.paged count form).ReadsBack (depth + 2 * count) := by
  induction count with
  | zero => exact readsBack
  | succ count ih => exact ih.paged

end Form

namespace Catalogue

variable (depth : Nat)

/-- Names, statuses and levels are read back. -/
theorem readsBack_of_mem_choices : ∀ form ∈ choices, form.ReadsBack (depth + 9) := by
  simp [choices]

/-- Members, their keys and their updates are read back. -/
theorem readsBack_of_mem_members : ∀ form ∈ members, form.ReadsBack (depth + 9) := by
  simp [members]

/-- Accounts, banks and money are read back. -/
theorem readsBack_of_mem_accounts : ∀ form ∈ accounts, form.ReadsBack (depth + 9) := by
  simp [accounts]

/-- Token requests, notices and certificates are read back. -/
theorem readsBack_of_mem_requests : ∀ form ∈ requests, form.ReadsBack (depth + 9) := by
  simp [requests]

/-- Requests to the gateway and its responses are read back. -/
theorem readsBack_of_mem_messages : ∀ form ∈ messages, form.ReadsBack (depth + 9) := by
  simp [messages]

/-- Nine levels are enough for every form. -/
theorem readsBack_of_mem_forms {form : Form} (listed : form ∈ forms) :
    form.ReadsBack (depth + 9) := by
  simp only [forms, List.mem_append] at listed
  rcases listed with (((choice | member) | account) | request) | message
  · exact readsBack_of_mem_choices depth form choice
  · exact readsBack_of_mem_members depth form member
  · exact readsBack_of_mem_accounts depth form account
  · exact readsBack_of_mem_requests depth form request
  · exact readsBack_of_mem_messages depth form message

/-- No form loses anything: each value is read back from its text and from its canonical text, and
two values never have the same canonical octets. Nor do parts of lists of its values, within one
another as often as the levels suffice that a reader goes down: nine are enough for the form, and
each part takes two. Nor does a part of a list whose items are of any other type that is lossless on
the levels that the part leaves. -/
theorem forms_loseNothing :
    (∀ form ∈ forms, ∀ count, 9 + 2 * count ≤ depthLimit →
        (Nat.repeat Form.paged count form).codec.LosesNothing) ∧
      ∀ (α : Type) [Wire α] [Lossless 125 α],
        (Wire.codec : Codec (PagedList α)).LosesNothing := by
  constructor
  · intro form listed count enough
    obtain ⟨unused, levels⟩ := Nat.exists_eq_add_of_le' enough
    have readsBack := (readsBack_of_mem_forms unused listed).repeat_paged count
    rw [Nat.add_assoc, ← levels] at readsBack
    exact Codec.losesNothing readsBack
  · intro α _ _
    exact Codec.losesNothing Lossless.readsBack

/-- Updates with controls, quotes, letters of any plane and the least time are among the forms, and
so are parts of lists of times that can be missing. -/
theorem forms_loseNothing_memberUpdate :
    Form.filled "MemberUpdate" MemberUpdate ∈ forms ∧
      decode (canonicalOctets (MemberUpdate.mk "\u0001\"é𝄞" ""
        [.ofKey { id := "k", expiresAt := some (-0x8000000000000000) }])) =
        .ok (MemberUpdate.mk "\u0001\"é𝄞" ""
          [.ofKey { id := "k", expiresAt := some (-0x8000000000000000) }]) ∧
      decode (encode (PagedList.mk [none, some (0x7FFFFFFFFFFFFFFF : Int64)] "]")) =
        .ok (PagedList.mk [none, some (0x7FFFFFFFFFFFFFFF : Int64)] "]") := by
  have listed : Form.filled "MemberUpdate" MemberUpdate ∈ forms := by
    simp [forms, members]
  exact ⟨listed, (forms_loseNothing.1 _ listed 0 (by decide)).canonical _,
    (forms_loseNothing.2 (Option Int64)).plain _⟩

end Catalogue

end OpenBanking
