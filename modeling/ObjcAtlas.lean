import ObjcAtlas.AddressLookup
import ObjcAtlas.CommandLine.Footprint
import ObjcAtlas.Generation
import ObjcAtlas.Listing
import ObjcAtlas.Main
import ObjcAtlas.TypeEncoding.Declarator
import ObjcAtlas.Proofs.AscendingNames
import ObjcAtlas.Proofs.ImportResolution
import ObjcAtlas.Proofs.HeaderNames
import ObjcAtlas.Proofs.ReferenceSurvival
import ObjcAtlas.Proofs.JobRuns
import ObjcAtlas.Proofs.GuardNames
import ObjcAtlas.Proofs.OrderIndependence
import ObjcAtlas.Proofs.IncludeClosure
import ObjcAtlas.Proofs.HeaderSources
import ObjcAtlas.Proofs.SharedPaths
import ObjcAtlas.Proofs.ModuleFiles
import ObjcAtlas.Proofs.RepeatedWrites
import ObjcAtlas.Proofs.RepeatedRuns
import ObjcAtlas.Proofs.InwardPaths
import ObjcAtlas.Proofs.OutputConfinement
import ObjcAtlas.Proofs.HeaderFlaws
import ObjcAtlas.Proofs.InfiniteNumbers
import ObjcAtlas.Proofs.LongNumerals
import ObjcAtlas.Proofs.MetadataFailures
import ObjcAtlas.Proofs.FilteredListings
import ObjcAtlas.Proofs.UnwalkedTypes
import ObjcAtlas.Proofs.WrappedPointers
import ObjcAtlas.Proofs.EditedClass
import ObjcAtlas.Proofs.RememberedImages
import ObjcAtlas.Proofs.StrippedAccessors
import ObjcAtlas.Proofs.DeclaredShapes
import ObjcAtlas.Proofs.EncodingTrees
import ObjcAtlas.Proofs.ListedProtocols
import ObjcAtlas.Proofs.AdvanceNames
import ObjcAtlas.Proofs.RemovedSlides
import ObjcAtlas.Proofs.ListedAddresses
import ObjcAtlas.Proofs.WrittenDocuments
import ObjcAtlas.Proofs.WrittenMatches
import ObjcAtlas.Proofs.MethodPrototypes
import ObjcAtlas.Proofs.HeaderSections
import ObjcAtlas.Proofs.AddressForms
import ObjcAtlas.Proofs.AggregateTags
import ObjcAtlas.Proofs.ScannedNames
import ObjcAtlas.Proofs.TrackedBlocks
