import CommandWrap.Group.Entry
import CommandWrap.Main
import CommandWrap.Parser.KeyValue
import CommandWrap.Process
import CommandWrap.Program.StaticModule
import CommandWrap.Session
import CommandWrap.Proofs.Planning
import CommandWrap.Proofs.Names
import CommandWrap.Proofs.RecordValues
import CommandWrap.Proofs.RecordHistory
import CommandWrap.Module.Lexer
import CommandWrap.Module.Source
import CommandWrap.Proofs.Spelling
import CommandWrap.Proofs.ModuleLines
import CommandWrap.Proofs.ModuleReading
import CommandWrap.Proofs.NormalNames
import CommandWrap.Proofs.ModuleMeaning
import CommandWrap.Proofs.ExportedNames
import CommandWrap.Proofs.Ways
import CommandWrap.Proofs.Cycles
import CommandWrap.Proofs.Preorder
import CommandWrap.Proofs.Pruning
import CommandWrap.Proofs.ModuleRecovery
import CommandWrap.Proofs.TreeData
import CommandWrap.Proofs.Decoding
import CommandWrap.Proofs.Descriptions
import CommandWrap.Proofs.Faults
import CommandWrap.Proofs.QuotedScalars
import CommandWrap.Proofs.TreeFaults
import CommandWrap.Proofs.WrittenScalars
import CommandWrap.Proofs.TreeFiles
import CommandWrap.Proofs.OptionBlocks
import CommandWrap.Proofs.ParserTrees
import CommandWrap.Proofs.GroupTrees
import CommandWrap.Proofs.ValueTags
import CommandWrap.Proofs.ExtractedTrees
import CommandWrap.Proofs.Generation
import CommandWrap.Proofs.SharedLists
import CommandWrap.Proofs.SettingLayers
import CommandWrap.Proofs.Docstrings
import CommandWrap.Proofs.FieldNames
import CommandWrap.Proofs.SettingFaults
import CommandWrap.Proofs.SettingRoutes
import CommandWrap.Proofs.FoundCommands
import CommandWrap.Proofs.TreeGrammar
import CommandWrap.Proofs.ClosedModules
import CommandWrap.Proofs.MergedNodes
import CommandWrap.Proofs.ReachedNodes
import CommandWrap.Proofs.FoundData
import CommandWrap.Proofs.NodeData
import CommandWrap.Proofs.NodeTexts
import CommandWrap.Proofs.NodeTrees
import CommandWrap.Proofs.ShellLines
import CommandWrap.Proofs.ElementTexts
import CommandWrap.Proofs.CollectedEntries
import CommandWrap.Proofs.PathSegments
