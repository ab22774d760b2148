import ObjcAtlas.Listing
import ObjcAtlas.Module
import ObjcAtlas.Proofs.FailingSteps
import ObjcAtlas.Proofs.PairedRuns
import ObjcAtlas.Proofs.StableOrder

/-! Binaries whose metadata give the entities of each section in another order. The modules read from them and the
listings of them are the same. -/
namespace ObjcAtlas

/-- Binaries that agree but for the order of entities in their sections, where those of one key keep theirs. -/
structure Binary.Reordered (b c : Binary) : Prop where
  name : b.name = c.name
  field : ∀ key, key ≠ "objc" → b.fields.lookup key = c.fields.lookup key
  hasMetadata : b.hasMetadata = c.hasMetadata
  classes : Agree (Rearranged ObjcClass.key) b.classes c.classes
  protocols : Agree (Rearranged ObjcProtocol.key) b.protocols c.protocols
  categories : Agree (Rearranged Category.key) b.categories c.categories

theorem Binary.Reordered.refl (b : Binary) : b.Reordered b :=
  ⟨rfl, fun _ _ => rfl, rfl, .refl (.refl _) _, .refl (.refl _) _, .refl (.refl _) _⟩

namespace Binary.Reordered
variable {b c : Binary}

theorem document_field? (h : b.Reordered c) {key : String} (hk : key ≠ "objc") :
    b.document.field? key = c.document.field? key := by
  simp only [document, Document.field?, h.field key hk]

theorem document_fieldTexts (h : b.Reordered c) {key : String} (hk : key ≠ "objc") :
    b.document.fieldTexts key = c.document.fieldTexts key := by
  simp only [Document.fieldTexts, Document.fieldItems, h.document_field? hk]

theorem installName? (h : b.Reordered c) : b.installName? = c.installName? := by
  have hf : b.document.field? "dylib_id" = c.document.field? "dylib_id" := h.document_field? (by decide)
  simp only [Binary.installName?, Document.fieldOr, hf]

theorem buildVersions (h : b.Reordered c) : b.buildVersions = c.buildVersions := by
  rw [Binary.buildVersions, Binary.buildVersions, h.document_fieldTexts (by decide)]

theorem importedLibraries (h : b.Reordered c) : b.importedLibraries = c.importedLibraries := by
  rw [Binary.importedLibraries, Binary.importedLibraries, h.document_fieldTexts (by decide)]

theorem sourceVersion (h : b.Reordered c) : b.sourceVersion = c.sourceVersion := by
  rw [Binary.sourceVersion, Binary.sourceVersion, h.field _ (by decide)]

/-- Reordered binaries are read as one module. -/
theorem ofBinary_eq (h : b.Reordered c) : Module.ofBinary b = Module.ofBinary c := by
  have hn : ∀ installName, Module.nameFor b installName = Module.nameFor c installName := by
    intro installName
    cases installName with
    | some _ => rfl
    | none => exact h.name
  rw [Module.ofBinary, Module.ofBinary, h.installName?, h.buildVersions, h.sourceVersion]
  refine bind_congr fun installName => bind_congr fun buildVersions => Agree.eq ?_
  refine h.classes.bind fun cs cs' hc => h.protocols.bind fun ps ps' hp => h.categories.bind fun ks ks' hk => ?_
  rw [hn, ObjcClass.sorted_eq hc, ObjcProtocol.sorted_eq hp, Category.sorted_eq hk]
  exact .refl (fun _ => rfl) _

theorem entriesOf_eq (h : b.Reordered c) (long : Bool) : Listing.entriesOf long b = Listing.entriesOf long c := by
  refine Agree.eq ?_
  refine h.protocols.bind fun ps ps' hp => h.classes.bind fun cs cs' hc => h.categories.bind fun ks ks' hk => ?_
  rw [Listing.orderedProtocols, Listing.orderedProtocols, ObjcClass.sorted_eq hc, ObjcProtocol.sorted_eq hp,
    Category.sorted_eq hk]
  exact .refl (fun _ => rfl) _

theorem matchesOf_eq (h : b.Reordered c) (kind : EntityKind) (isMatch : String → Bool) (long : Bool) :
    Listing.matchesOf kind isMatch long b = Listing.matchesOf kind isMatch long c := by
  refine Agree.eq ?_
  cases kind with
  | ofClass =>
    refine h.classes.bind fun cs cs' hc => ?_
    have hs : Listing.matching (·.name) isMatch cs = Listing.matching (·.name) isMatch cs' :=
      congrArg (List.filter fun c : ObjcClass => isMatch c.name) (ObjcClass.sorted_eq hc)
    rw [hs]
    exact .refl (fun _ => rfl) _
  | ofProtocol =>
    refine h.protocols.bind fun ps ps' hp => ?_
    rw [Listing.orderedProtocols, Listing.orderedProtocols, ObjcProtocol.sorted_eq hp]
    exact .refl (fun _ => rfl) _
  | ofCategory =>
    refine h.categories.bind fun ks ks' hk => ?_
    rw [Category.sorted_eq hk]
    exact .refl (fun _ => rfl) _

end Binary.Reordered

/-- Listings of reordered binaries. -/
structure Listing.Reordered (l k : Listing) : Prop where
  binary : l.binary.Reordered k.binary
  dependencies : List.Forall₂ Binary.Reordered l.dependencies k.dependencies

namespace Listing.Reordered
variable {l k : Listing}

theorem binaries (h : l.Reordered k) : List.Forall₂ Binary.Reordered l.binaries k.binaries :=
  .cons h.binary h.dependencies

theorem all_eq (h : l.Reordered k) (long : Bool) : l.all long = k.all long := by
  rw [all, all, mapM_eq_of_forall₂ (h.binaries.imp fun _ _ hb => hb.entriesOf_eq long)]

theorem ofKind_eq (h : l.Reordered k) (kind : EntityKind) (isMatch : String → Bool) (long : Bool) :
    l.ofKind kind isMatch long = k.ofKind kind isMatch long := by
  rw [ofKind, ofKind, mapM_eq_of_forall₂ (h.binaries.imp fun _ _ hb => hb.matchesOf_eq kind isMatch long)]

theorem filtered_eq (h : l.Reordered k) (kind : EntityKind) (text : String) (long : Bool) :
    l.filtered kind text long = k.filtered kind text long := by
  rw [filtered, filtered]
  exact bind_congr fun p => h.ofKind_eq kind p.occursIn long

end Listing.Reordered
end ObjcAtlas
