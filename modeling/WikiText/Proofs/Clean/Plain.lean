import WikiText.Proofs.Clean.Passes
import WikiText.Proofs.Tidy.Repetition

/-!
# Plain texts

A text without markup whose white space is reduced and which is normalized (`Plain`) is what a cleaned
text looks like, and the cleaner leaves it as it is (`clean_plain`). Each pass is the identity on such
a text, as the construct that the pass looks for begins with a character that the text does not hold.
Braces, bars, closing brackets, backslashes, addresses and single apostrophes are no markup by
themselves.
-/

namespace WikiText

/-- A text without anything that the cleaner removes, reduces or writes in another way. -/
structure Plain (text : Text) : Prop where
  tag : '<' ∉ text
  bracket : '[' ∉ text
  reference : '&' ∉ text
  caret : '^' ∉ text
  table : ¬ ['{', '|'] <:+: text
  emphasis : ¬ ['\x27', '\x27'] <:+: text
  normalized : Unicode.nfc text = text
  shown : ∀ c ∈ text, c ∉ Tidy.unshown
  enSpace : '\u2002' ∉ text
  spaces : ¬ [' ', ' '] <:+: text
  lines : ¬ [' ', '\n'] <:+: text
  newlines : ¬ ['\n', '\n'] <:+: text
  trimmed : Text.Trimmed text

namespace Plain

variable {text : Text}

/-- The white space of a plain text is reduced. -/
theorem reduced (h : Plain text) : Tidy.Reduced text where
  shown := h.shown
  spaces := h.spaces
  lines := h.lines
  tight _ _ _ _ hin := absurd (hin.subset List.mem_cons_self) h.bracket

/-- A plain text is settled. -/
theorem settled (h : Plain text) : Tidy.Settled text where
  reference := Pattern.not_occurs_of_notMem h.reference
  lines := h.newlines
  spaces := h.enSpace

/-- A plain text is tidy as it is. -/
theorem tidy_eq (h : Plain text) (options : Options) : Tidy.tidy options text = text := by
  have hreduce : Tidy.reduce text = text := by
    have hspace := Tidy.reduceSpace_of_reduced h.reduced h.settled
    rwa [Tidy.reduceSpace_eq, Tidy.shown_of_reduced h.reduced] at hspace
  rw [Tidy.tidy_of_reduced h.reference h.reduced fun _ => Text.trim_of_trimmed h.trimmed, hreduce,
    h.normalized]

/-- One call leaves a plain text as it is, whatever nested calls would do. -/
theorem cleanWith_eq {ε : Type} (h : Plain text) (note : Event → ε) (namespaces : Namespaces)
    (nested : Options → Text → Traced ε Text) (options : Options) :
    cleanWith note namespaces nested options text = pure text := by
  have hraised : Link.raisedAddress.remove text = text :=
    Pattern.remove_of_not_occurs (Pattern.not_occurs_of_notMem h.caret)
  rw [cleanWith_of_notMem note namespaces nested options h.tag h.bracket h.table, hraised,
    Emphasis.stripAll_of_not_infix h.emphasis, h.tidy_eq]

end Plain

/-- **A plain text is cleaned to itself**, whatever is to be kept of it and whatever the namespaces
are called, and nothing is noted: no diagnostic and no message. -/
theorem clean_plain {text : Text} (h : Plain text) (namespaces : Namespaces) (options : Options) :
    clean namespaces options text = pure text :=
  h.cleanWith_eq id namespaces _ options

/-- A line with a single apostrophe, and one with braces, a bar, closing brackets and a command. -/
def sentence : Text :=
  "l\x27été …\n\\frac \x7ba| b\x7d]]".toList

/-- A sentence is cleaned to itself, with tags kept, and nothing is noted. -/
theorem clean_plain_sentence :
    Plain sentence ∧ clean .canonical .tagged sentence = pure sentence := by
  have hshown : sentence.all (!Tidy.unshown.contains ·) = true := by decide +kernel
  have hhead : sentence.head? = some 'l' := by decide +kernel
  have hlast : sentence.getLast? = some ']' := by decide +kernel
  have h : Plain sentence := by
    constructor
    case shown => simpa using hshown
    case trimmed =>
      refine ⟨fun c hc => ?_, fun c hc => ?_⟩
      · obtain rfl : 'l' = c := Option.some.inj (hhead.symm.trans hc)
        decide
      · obtain rfl : ']' = c := Option.some.inj (hlast.symm.trans hc)
        decide
    all_goals decide +kernel
  exact ⟨h, clean_plain h .canonical .tagged⟩

end WikiText
