import ShardManifest.Text.Dictionary
import ShardManifest.Number.Shortest
import ShardManifest.Digest.Sha256
import ShardManifest.Document
import ShardManifest.Source.Plain
import ShardManifest.Source.Node
import ShardManifest.Json.Token
import ShardManifest.Json.Reader
import ShardManifest.Names
import ShardManifest.Xml.Escape
import ShardManifest.Xml.Writer
import ShardManifest.Log.Event
import ShardManifest.Installation.Setting
import ShardManifest.Installation.Selection
import ShardManifest.Kubernetes.Timestamp
import ShardManifest.Kubernetes.Shape
import ShardManifest.Source.Value
import ShardManifest.Kubernetes.Shapes.Metadata
import ShardManifest.Kubernetes.Shapes.Volume
import ShardManifest.Kubernetes.Shapes.Container
import ShardManifest.Source.Record
import ShardManifest.Kubernetes.Pod
import ShardManifest.Kubernetes.Object
import ShardManifest.Installation.Cluster
import ShardManifest.Installation.TemplateLibrary
import ShardManifest.Fault
import ShardManifest.Installation.Spec
import ShardManifest.Installation.Resource
import ShardManifest.Fingerprint
import ShardManifest.Topology
import ShardManifest.TemplateIndex
import ShardManifest.SelectionIndex
import ShardManifest.Fragment.Settings
import ShardManifest.Fragment.Cluster
import ShardManifest.Fragment.Bundle
import ShardManifest.Provision.Basis
import ShardManifest.Provision.Access
import ShardManifest.Provision.StatefulSet
import ShardManifest.Compilation
import ShardManifest.Yaml.Character
import ShardManifest.Yaml.Scalar
import ShardManifest.Yaml.Printer
import ShardManifest.Yaml.Glyph
import ShardManifest.Yaml.Token
import ShardManifest.Yaml.Lexeme.Quoted
import ShardManifest.Yaml.Lexeme.Block
import ShardManifest.Yaml.Lexeme.Property
import ShardManifest.Yaml.Layout
import ShardManifest.Yaml.Tree
import ShardManifest.Yaml.Assembly
import ShardManifest.Yaml.Reader
import ShardManifest.Schema
import ShardManifest.Definition
import ShardManifest.CommandLine
import ShardManifest.Main
import ShardManifest.Proofs.ByteOrder
import ShardManifest.Proofs.Numerals
import ShardManifest.Proofs.Identifiers
import ShardManifest.Proofs.DictionaryRuns
import ShardManifest.Proofs.Placements
import ShardManifest.Proofs.TemplateLookup
import ShardManifest.Proofs.SelectionLookup
import ShardManifest.Proofs.DeploymentIdentity
import ShardManifest.Proofs.BasisConsistency
import ShardManifest.Proofs.ObjectOutcomes
import ShardManifest.Proofs.CompilationOutcome
import ShardManifest.Proofs.Provisioning
import ShardManifest.Proofs.NormalForm
import ShardManifest.Proofs.BundleFiles
import ShardManifest.Proofs.ReplicaObjects
import ShardManifest.Proofs.ScaleOut
import ShardManifest.Proofs.SharedSelections
import ShardManifest.Proofs.Mounts
import ShardManifest.Proofs.PodSelectors
import ShardManifest.Proofs.UnselectedTemplates
import ShardManifest.Proofs.Xml.CharacterData
import ShardManifest.Proofs.Xml.Layout
import ShardManifest.Proofs.Xml.Grammar
import ShardManifest.Proofs.Xml.Reader
import ShardManifest.Proofs.Xml.RoundTrip
import ShardManifest.Proofs.SettingTrees
import ShardManifest.Proofs.FragmentMarkup
import ShardManifest.Proofs.ReplicaMacros
import ShardManifest.Proofs.ClusterDefinition
import ShardManifest.Proofs.OutcomeAgreement
import ShardManifest.Proofs.Overrides
import ShardManifest.Proofs.SharedConfiguration
import ShardManifest.Proofs.ConfigMapNames
import ShardManifest.Proofs.NeighbouringInstallations
import ShardManifest.Proofs.DocumentNodes
import ShardManifest.Proofs.ServiceNames
import ShardManifest.Proofs.Warnings
import ShardManifest.Proofs.SpecRoundTrip
import ShardManifest.Proofs.PayloadNormalForm
import ShardManifest.Proofs.Yaml.Blocks
import ShardManifest.Proofs.Yaml.Endings
import ShardManifest.Proofs.YamlStream
import ShardManifest.Proofs.PodAssembly
import ShardManifest.Proofs.ServedTopology
import ShardManifest.Proofs.SettingsContent
import ShardManifest.Proofs.HostList
import ShardManifest.Proofs.DeclaredReplicas
import ShardManifest.Proofs.SelectionEncoding
import ShardManifest.Proofs.DeploymentBound
import ShardManifest.Proofs.HollowElements
import ShardManifest.Proofs.BundleContent
import ShardManifest.Proofs.CoordinationService
import ShardManifest.Proofs.DnsLabels
import ShardManifest.Proofs.JsonNumerals
import ShardManifest.Proofs.IntegerSettings
