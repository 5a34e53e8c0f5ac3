import AccessorGen.Main
import AccessorGen.Marker
import AccessorGen.Proofs.Companion.FieldLaws
import AccessorGen.Proofs.Companion.RenderedTypes
import AccessorGen.Proofs.Config.ValuePlace
import AccessorGen.Proofs.Discovery.Deletion
import AccessorGen.Proofs.Discovery.Enumeration
import AccessorGen.Proofs.Discovery.FileModules
import AccessorGen.Proofs.Discovery.InPlace
import AccessorGen.Proofs.Discovery.Members
import AccessorGen.Proofs.Discovery.Refused
import AccessorGen.Proofs.Discovery.TypeRoundTrip
import AccessorGen.Proofs.Input.ErrorPlace
import AccessorGen.Proofs.Input.Slices
import AccessorGen.Proofs.Layout.Indentation
import AccessorGen.Proofs.Output.AnyOrder
import AccessorGen.Proofs.Output.Books
import AccessorGen.Proofs.Output.Inside
import AccessorGen.Proofs.Output.OwnFiles
import AccessorGen.Proofs.Output.Resolution
import AccessorGen.Proofs.Output.SecondRun
import AccessorGen.Proofs.Render.Fields
import AccessorGen.Proofs.Render.Identifiers
import AccessorGen.Proofs.Render.TextDetermines
import AccessorGen.Proofs.Round.Isolation
import AccessorGen.Proofs.Round.Ledger
import AccessorGen.Proofs.Run.Prediction
import AccessorGen.Proofs.Spelling.Gaps
import AccessorGen.Proofs.Text.QualifiedNames
import AccessorGen.Source.Display
