import HttpClient.Header.Fields

/-!
# Replacing header fields

Fields that are taken out of one set come name by name, in whatever order the names come, and only
the first value of a name says whose it is. Put into another set they always find their place. The
names that came have their values then, in their order, and every other name keeps what it had.
-/

namespace HttpClient.Fields

/-- In whatever order the names of `src` come out, every value has its place in `dst`. Then the
names of `src` have its values and the others those of `dst`, as after replacing name by name, and
doing so again changes no values. -/
theorem putIn_replaces (dst : Fields) {src : Fields} {order : List String}
    (horder : ∀ name, name ∈ order ↔ src.contains name = true) :
    ∃ out again, putIn none (order.flatMap src.taken) dst = some out ∧
      (∀ name, src.contains name = true → out.values name = src.values name) ∧
      (∀ name, src.contains name = false → out.values name = dst.values name) ∧
      (∀ name, (dst.replaceAll src).values name = out.values name) ∧
      putIn none (order.flatMap src.taken) out = some again ∧
      (∀ name, again.values name = out.values name) ∧
      ∀ name,
        ((dst.replaceAll src).replaceAll src).values name = (dst.replaceAll src).values name := by
  obtain ⟨out, hout, hvalues⟩ := values_putIn horder dst
  obtain ⟨again, hagain, hsame⟩ := values_putIn horder out
  refine ⟨out, again, hout, fun name h => ?_, fun name h => ?_, fun name => ?_, hagain,
    fun name => ?_, fun name => ?_⟩
  · rw [hvalues, if_pos h]
  · rw [hvalues, h, if_neg Bool.false_ne_true]
  · rw [hvalues, values_replaceAll]
  · rw [hsame, hvalues]
    split <;> rfl
  · rw [values_replaceAll, values_replaceAll]
    split <;> rfl

/-- Two names with several values in both sets, one name in one set each, and names that come last
to first. -/
theorem putIn_replaces_mixed :
    let a := HeaderValue.ofAscii "1"
    let b := HeaderValue.ofAscii "2"
    let c := HeaderValue.ofAscii "3"
    let dst : Fields := ⟨[("x-a", a), ("x-kept", b), ("x-b", a), ("x-a", c), ("x-kept", a)]⟩
    let src : Fields := ⟨[("x-a", b), ("x-b", c), ("x-a", b), ("x-new", a), ("x-b", a)]⟩
    ["x-new", "x-b", "x-a"].flatMap src.taken =
        [(some "x-new", a), (some "x-b", c), (none, a), (some "x-a", b), (none, b)] ∧
      ∃ out, putIn none (["x-new", "x-b", "x-a"].flatMap src.taken) dst = some out ∧
        out.values "x-a" = [b, b] ∧ out.values "x-b" = [c, a] ∧ out.values "x-new" = [a] ∧
        out.values "x-kept" = [b, a] := by
  intro a b c dst src
  have hnames : ["x-new", "x-b", "x-a"].Perm src.names := by decide
  have horder : ∀ name, name ∈ ["x-new", "x-b", "x-a"] ↔ src.contains name = true :=
    fun name => hnames.mem_iff.trans (mem_names src name)
  obtain ⟨out, -, hout, hsrc, hdst, -⟩ := putIn_replaces dst horder
  refine ⟨by decide, out, hout, ?_, ?_, ?_, ?_⟩
  · exact (hsrc "x-a" (by decide)).trans (by decide)
  · exact (hsrc "x-b" (by decide)).trans (by decide)
  · exact (hsrc "x-new" (by decide)).trans (by decide)
  · exact (hdst "x-kept" (by decide)).trans (by decide)

end HttpClient.Fields
