import JsonClasses.Main
import JsonClasses.Settings.OfJson
import JsonClasses.Proofs.ClassTree.Draft
import JsonClasses.Proofs.Json.Reach
import JsonClasses.Proofs.ClassTree.Run
import JsonClasses.Proofs.ClassTree.Mirror
import JsonClasses.Proofs.ClassTree.Place
import JsonClasses.Proofs.ClassTree.Meaning
import JsonClasses.Proofs.Java.Repair
import JsonClasses.Proofs.Naming.Standard
import JsonClasses.Proofs.ClassTree.Members
import JsonClasses.Proofs.ClassTree.Standard
import JsonClasses.Proofs.Generator.Outcome
import JsonClasses.Proofs.Naming.Alike
import JsonClasses.Proofs.ClassTree.Named
import JsonClasses.Proofs.ClassTree.Parameters
import JsonClasses.Proofs.ClassTree.Operation
import JsonClasses.Proofs.ClassTree.Skeleton
import JsonClasses.Proofs.ClassTree.TypeTree
import JsonClasses.Proofs.ClassTree.AcrossStyles
import JsonClasses.Proofs.Java.Reading
import JsonClasses.Proofs.Java.Literal
import JsonClasses.Proofs.ClassTree.Legal
import JsonClasses.Proofs.Java.Chunk
import JsonClasses.Proofs.Generator.Literals
import JsonClasses.Proofs.Disk.Path
import JsonClasses.Proofs.Disk.Files
import JsonClasses.Proofs.Generator.OutputPath
import JsonClasses.Proofs.Command.Files
import JsonClasses.Proofs.Java.Item
import JsonClasses.Proofs.Java.Token
import JsonClasses.Proofs.Java.Declaration
import JsonClasses.Proofs.Java.Layout
import JsonClasses.Proofs.Java.Injective
import JsonClasses.Proofs.ClassTree.Numbered
import JsonClasses.Proofs.Naming.OneWord
import JsonClasses.Proofs.Java.ObjectMethods
import JsonClasses.Proofs.ClassTree.FirstCandidate
import JsonClasses.Proofs.Command.Layered
import JsonClasses.Proofs.Disk.Making
import JsonClasses.Proofs.Command.Init
import JsonClasses.Proofs.ClassTree.MemberAttempts
import JsonClasses.Proofs.ClassTree.NameChoices
import JsonClasses.Proofs.ClassTree.EntryOrder
import JsonClasses.Proofs.ClassTree.Standalone
import JsonClasses.Proofs.ClassTree.Reordered
import JsonClasses.Proofs.Naming.Boundaries
import JsonClasses.Proofs.Naming.Joined
import JsonClasses.Proofs.Naming.Stable
import JsonClasses.Proofs.Settings.Accepted
import JsonClasses.Proofs.Naming.Spelled
import JsonClasses.Proofs.Java.Imports
import JsonClasses.Proofs.Java.Writer
import JsonClasses.Proofs.Java.Inputs
import JsonClasses.Proofs.Java.TypeReader
