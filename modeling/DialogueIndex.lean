import DialogueIndex.Data.JsonReader
import DialogueIndex.Main
import DialogueIndex.Proofs.Outline
import DialogueIndex.Proofs.Reference
import DialogueIndex.Proofs.Scanner
import DialogueIndex.Proofs.Text.LineLayout
import DialogueIndex.Proofs.MarkerPattern
import DialogueIndex.Proofs.SourceFile
import DialogueIndex.Proofs.Concatenation
import DialogueIndex.Proofs.Link
import DialogueIndex.Proofs.FileTree.Leaf
import DialogueIndex.Proofs.SizeLimit
import DialogueIndex.Proofs.FileTree.Pruning
import DialogueIndex.Proofs.Ignore.Filter
import DialogueIndex.Proofs.LineEnds
import DialogueIndex.Proofs.Tightening
import DialogueIndex.Proofs.FileTree.LeafPaths
import DialogueIndex.Proofs.FileTree.Reordering
import DialogueIndex.Proofs.ScanOrder
import DialogueIndex.Proofs.FileTree.Mount
import DialogueIndex.Proofs.Ignore.Below
import DialogueIndex.Proofs.Relocation
import DialogueIndex.Proofs.JoinedOutline
import DialogueIndex.Proofs.ConfigRun
import DialogueIndex.Proofs.FileTree.Write
import DialogueIndex.Proofs.OutputFile
import DialogueIndex.Proofs.Data.JsonScalar
import DialogueIndex.Proofs.Data.JsonText
import DialogueIndex.Proofs.Data.Report
import DialogueIndex.Proofs.ByteOrderMark
import DialogueIndex.Proofs.LiteralBeginning
import DialogueIndex.Proofs.Ignore.Faulty
import DialogueIndex.Proofs.Spelling
import DialogueIndex.Proofs.LongerText
import DialogueIndex.Proofs.Glob.Directories
import DialogueIndex.Proofs.WrittenSections
import DialogueIndex.Proofs.Exclusion
import DialogueIndex.Proofs.UntitledSections
import DialogueIndex.Proofs.ConfigLayers
import DialogueIndex.Proofs.LineCuts
import DialogueIndex.Proofs.Summary
